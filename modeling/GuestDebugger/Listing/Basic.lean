import GuestDebugger.AddressMap
import GuestDebugger.Listing.Op

/-! # Listings

A guest program is a set of instructions keyed by address. Execution falls through from each
instruction to the one at the next higher address. -/

namespace GuestDebugger

/-- A guest program. -/
@[ext] structure Listing where
  /-- The instructions by address. -/
  ops : AddressMap Op

namespace Listing

/-- The program with the given instructions; of those with one address the last stays. -/
def ofOps (entries : List (Address × Op)) : Listing := ⟨.ofList entries⟩

/-- The lowest address of an instruction, where execution begins. -/
def entry? (l : Listing) : Option Address := l.ops.firstKey?

/-- The instruction at an address. -/
def get? (l : Listing) (a : Address) : Option Op := l.ops.get? a

/-- The address of the instruction that follows an address. -/
def nextAddress? (l : Listing) (a : Address) : Option Address := l.ops.keyAfter? a

/-- The instructions at an address and above it, in ascending order. -/
def opsFrom (l : Listing) (a : Address) : List (Address × Op) := l.ops.entriesFrom a

/-- The number of instructions. -/
def size (l : Listing) : Nat := l.ops.size

/-- Whether there is no instruction. -/
def isEmpty (l : Listing) : Bool := l.ops.isEmpty

end Listing

end GuestDebugger
