import GuestDebugger.Proofs.Adapter.Ownership
import GuestDebugger.Proofs.Adapter.Sessions
import GuestDebugger.Proofs.Machine.Independence
import Mathlib.Algebra.Ring.Int.Defs
import Mathlib.Algebra.Ring.Nat
import Mathlib.Data.List.Forall2

/-! # Replacing the breakpoints that the client owns

A client names the addresses of its breakpoints by references and offsets. The breakpoints that it
owned so far go, also those that were changed meanwhile, and plain ones take their place. Nothing
else of the session changes, and asking again changes nothing at all. -/

namespace GuestDebugger

/-- The whole number that a value is, if it is one. -/
def Json.whole? : Json → Option Int
  | .number (.natural n) => some n.toNat
  | .number (.negative n) => some n.toInt
  | _ => none

namespace Adapter.Request

/-! ### What the client names -/

/-- The elements of a request to replace the breakpoints. -/
def elements (r : Request) : List Json :=
  ((r.arguments.field? "breakpoints").bind Json.array?).getD []

/-- The reference of an element; empty if there is none. -/
def referenceOf (element : Json) : String :=
  ((element.field? "instructionReference").bind Json.string?).getD ""

/-- The offset of an element; zero if there is none that fits in 64 bits with a sign. -/
def offsetOf (element : Json) : Int :=
  match (element.field? "offset").bind Json.whole? with
  | some n => if n < 2 ^ 63 then n else 0
  | none => 0

/-- An element names the address that lies its offset behind what its reference resolves to. -/
def Names (labels : Labels) (element : Json) (a : Address) : Prop :=
  ∃ base, resolve? labels (referenceOf element) = some base ∧
    (a.toNat : Int) = (base.toNat + offsetOf element) % 2 ^ 32

/-- What the client is told about an element. -/
inductive Tells (labels : Labels) (element : Json) : Json → Prop
  | verified {a : Address} (names : Names labels element a) :
      Tells labels element
        (.ofFields [("verified", .bool true), ("instructionReference", .string a.text)])
  | unresolved (unknown : resolve? labels (referenceOf element) = none) :
      Tells labels element
        (.ofFields [("verified", .bool false),
          ("message", .string (RequestError.unresolved (referenceOf element)).message)])

/-- The sign of an offset is lost in its bits, but not to sums that wrap around. -/
theorem toNat_toUInt64 (offset : Int64) :
    (offset.toUInt64.toNat : Int) = offset.toInt % 2 ^ 64 := by
  have signed : offset.toInt = offset.toBitVec.toInt := rfl
  have bits : offset.toUInt64.toNat = offset.toBitVec.toNat := rfl
  rw [signed, bits, BitVec.toInt_eq_toNat_cond]
  split <;> omega

section Replacing

variable (session : Session Machine) (old new : List Address)

/-- Two sessions that differ in their breakpoints alone. -/
def OnlyBreakpoints (s t : Session Machine) : Prop :=
  t = { s with breakpoints := t.breakpoints, engine := s.engine.withBreaks t.engine.breaks }

variable {session old new} {s t u : Session Machine}

theorem OnlyBreakpoints.trans (first : OnlyBreakpoints s t) (second : OnlyBreakpoints t u) :
    OnlyBreakpoints s u := by
  rw [OnlyBreakpoints] at first second ⊢
  rw [second, first]
  rfl

theorem OnlyBreakpoints.eq (only : OnlyBreakpoints s t) (table : t.breakpoints = s.breakpoints)
    (breaks : t.engine.breaks = s.engine.breaks) : t = s := by
  rw [only, table, breaks]
  rfl

theorem OnlyBreakpoints.labels (only : OnlyBreakpoints s t) : t.labels = s.labels := by
  rw [only]

end Replacing

/-! ### The request -/

/-- The addresses that are named, in order. -/
def addresses (r : Request) (labels : Labels) : List Address :=
  r.elements.filterMap fun element => (BreakpointRequest.ofJson element).address? labels

/-- What is told about the elements, in order. -/
def results (r : Request) (labels : Labels) : List Json :=
  r.elements.map fun element => (BreakpointRequest.ofJson element).result labels

/-- The server after the critical section of the request. -/
def afterReplacing (r : Request) (s : Server) (p : Program) : Server :=
  { withSession s p
      (replaceBreakpoints p.session s.owned.keys (r.addresses p.session.labels)) with
    owned := addressSet (r.addresses p.session.labels) }

/-- The answer to the request. -/
def replacedBody (r : Request) (labels : Labels) : Json :=
  .ofFields [("breakpoints", .array (r.results labels))]

variable {r : Request} {s : Server} {p : Program}

theorem accept_setInstructionBreakpoints (named : r.command = "setInstructionBreakpoints")
    (launched : s.program = some p) (files : Files) (clock : Clock) :
    r.accept files clock s =
      (r.afterReplacing s p, [r.respond (some (r.replacedBody p.session.labels))]) := by
  simp only [accept, begun, begin, named, setInstructionBreakpoints, run_program_bind, launched]
  simp only [afterReplacing, replacedBody, addresses, results, List.map_map, List.filterMap_map]
  rfl

end Adapter.Request

end GuestDebugger
