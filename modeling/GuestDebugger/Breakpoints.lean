import GuestDebugger.AddressMap

/-! # Breakpoints

The breakpoint table holds at most one entry per address. The engine keeps a break set of its own
for batch stepping; every change of the table is passed on to it, so that the enabled entries are
in the set and the disabled ones are not. -/

namespace GuestDebugger

/-- How long a breakpoint lives. -/
structure BreakpointFlags where
  /-- Removed the first time execution stops on it. -/
  temporary : Bool := false
  /-- Removed likewise; set by running to an address. -/
  oneShot : Bool := false
deriving DecidableEq, Repr, Inhabited

/-- One entry of the breakpoint table. -/
structure Breakpoint where
  /-- Where execution stops. -/
  address : Address
  /-- Whether the entry is ignored for now. -/
  disabled : Bool
  /-- How long the entry lives. -/
  flags : BreakpointFlags
deriving DecidableEq, Repr

/-- Whether an entry is removed when execution stops on it. -/
def Breakpoint.isTransient (b : Breakpoint) : Bool := b.flags.temporary || b.flags.oneShot

/-- Why a breakpoint could not be changed. -/
inductive BreakpointError where
  /-- There is no entry at the address. -/
  | notFound (address : Address)
deriving DecidableEq, Repr

/-- What is told to the user about a breakpoint that could not be changed. -/
def BreakpointError.message : BreakpointError → String
  | notFound address => "no breakpoint at " ++ address.text

/-- Sets of addresses at which batch stepping stops. -/
class BreakSet (σ : Type) where
  /-- Adds an address. -/
  addBreak : σ → Address → σ
  /-- Removes an address. -/
  removeBreak : σ → Address → σ

instance : BreakSet AddressSet where
  addBreak s a := s.insert a ()
  removeBreak s a := s.erase a

/-- The breakpoint table. -/
@[ext] structure Breakpoints where
  /-- The entries by address. -/
  entries : AddressMap Breakpoint := ∅

namespace Breakpoints

/-- The table without entries. -/
def empty : Breakpoints := {}

instance : EmptyCollection Breakpoints where
  emptyCollection := empty

/-- The entry at an address. -/
def get? (t : Breakpoints) (a : Address) : Option Breakpoint := t.entries.get? a

/-- Whether there is an entry at an address and it is enabled. -/
def isActive (t : Breakpoints) (a : Address) : Bool :=
  match t.get? a with
  | some b => !b.disabled
  | none => false

/-- The entries in ascending order of their addresses. -/
def toList (t : Breakpoints) : List Breakpoint := t.entries.values

/-- The number of entries. -/
def size (t : Breakpoints) : Nat := t.entries.size

/-- Whether there is no entry. -/
def isEmpty (t : Breakpoints) : Bool := t.entries.isEmpty

variable {σ : Type} [BreakSet σ]

/-- Adds or replaces the entry at an address. It starts enabled. -/
def add (t : Breakpoints) (s : σ) (a : Address) (flags : BreakpointFlags) : Breakpoints × σ :=
  (⟨t.entries.insert a ⟨a, false, flags⟩⟩, BreakSet.addBreak s a)

/-- Removes the entry at an address. If there is none, nothing happens. -/
def remove (t : Breakpoints) (s : σ) (a : Address) : Breakpoints × σ :=
  match t.get? a with
  | some _ => (⟨t.entries.erase a⟩, BreakSet.removeBreak s a)
  | none => (t, s)

/-- Disables an enabled entry and enables a disabled one. Gives whether it is now disabled, if there
is one, and in any case the table and the break set after it. -/
def toggle (t : Breakpoints) (s : σ) (a : Address) :
    Except BreakpointError Bool × Breakpoints × σ :=
  match t.get? a with
  | none => (.error (.notFound a), t, s)
  | some b =>
    let disabled := !b.disabled
    (.ok disabled, ⟨t.entries.insert a { b with disabled := disabled }⟩,
      if disabled then BreakSet.removeBreak s a else BreakSet.addBreak s a)

/-- Removes all entries. Of the break set, only their enabled ones are taken out. -/
def clear (t : Breakpoints) (s : σ) : Breakpoints × σ :=
  (∅, t.toList.foldl (fun s b => if b.disabled then s else BreakSet.removeBreak s b.address) s)

end Breakpoints

end GuestDebugger
