import GuestDebugger.Proofs.Adapter.Reporting
import Mathlib.Data.List.Perm.Basic
import Mathlib.Logic.Relation

/-! # Numbers on the wire

A message is sent in two steps, and the other party may act between them. Whatever the two do, each
number is taken once, and it is on the wire or still held by the one who took it. So once nobody is
sending, the numbers on the wire are those from one on, without a gap or a repetition. Their order
is another matter: who took a number first may be the last to put a frame on the wire. The frames
are in order as long as nobody overtakes another in this way. -/

namespace GuestDebugger.Adapter

/-- The numbers of the messages on the wire. -/
def Wire.numbers (w : Wire) : List UInt64 := w.messages.toList.map (·.seq)

theorem Wire.numbers_put (w : Wire) (m : Message) : (w.put m).numbers = w.numbers ++ [m.seq] := by
  simp only [numbers, put, Array.toList_push, List.map_append, List.map_cons, List.map_nil]

/-- The message of a content that takes the next number. -/
def Wire.numbered (w : Wire) (content : Content) : Message :=
  ⟨w.takeNumber.1, content.kind, content⟩

/-- The wire, and the messages that have their numbers but are not on the wire yet, each with the
party that sends it, in the order in which the numbers were taken. -/
structure Sending where
  /-- The wire. -/
  wire : Wire := {}
  /-- What is about to be put on the wire. -/
  held : List (Party × Message) := []

namespace Sending

/-- What the parties may do, each of them one message after the other. In turn, what is put on the
wire has the lowest number of all that is held. -/
inductive Step (inTurn : Prop) (s : Sending) : Sending → Prop
  | take (p : Party) (content : Content) (free : ∀ x ∈ s.held, x.1 ≠ p) :
      Step inTurn s ⟨s.wire.takeNumber.2, s.held ++ [(p, s.wire.numbered content)]⟩
  | put {before after : List (Party × Message)} {p : Party} {m : Message}
      (holds : s.held = before ++ (p, m) :: after) (turn : inTurn → before = []) :
      Step inTurn s ⟨s.wire.put m, before ++ after⟩

/-- Steps one after the other. -/
abbrev Run (inTurn : Prop) : Sending → Sending → Prop := Relation.ReflTransGen (Step inTurn)

/-- A message that is sent without a step of the other party in between. -/
theorem run_send {s : Sending} (free : s.held = []) (inTurn : Prop) (p : Party)
    (content : Content) : Run inTurn s { s with wire := s.wire.send content } := by
  obtain ⟨w, held⟩ := s
  obtain rfl : held = [] := free
  have first : Step inTurn ⟨w, []⟩ ⟨w.takeNumber.2, [(p, w.numbered content)]⟩ :=
    .take p content nofun
  have second : Step inTurn ⟨w.takeNumber.2, [(p, w.numbered content)]⟩ ⟨w.send content, []⟩ :=
    @Step.put _ _ [] [] _ _ rfl fun _ => rfl
  exact .tail (.single first) second

/-- The numbers from one on. -/
def upTo (n : Nat) : List UInt64 := (List.range n).map fun i => UInt64.ofNat (i + 1)

theorem upTo_succ (n : Nat) : upTo (n + 1) = upTo n ++ [UInt64.ofNat (n + 1)] := by
  rw [upTo, upTo, List.range_succ, List.map_append, List.map_singleton]

/-- The numbers of all messages that have one: those on the wire, then those that are held. -/
def numbers (s : Sending) : List UInt64 := s.wire.numbers ++ s.held.map (·.2.seq)

/-- Taking a number adds the next one behind the others. -/
theorem numbers_take (s : Sending) (p : Party) (content : Content) :
    (Sending.mk s.wire.takeNumber.2 (s.held ++ [(p, s.wire.numbered content)])).numbers =
      s.numbers ++ [s.wire.lastSeq + 1] := by
  simp only [numbers, List.map_append, List.map_cons, List.map_nil, ← List.append_assoc]
  rfl

/-- Putting a frame on the wire moves its number in front of those that are held still. -/
theorem perm_numbers_put {s : Sending} {before after : List (Party × Message)} {p : Party}
    {m : Message} (holds : s.held = before ++ (p, m) :: after) :
    (Sending.mk (s.wire.put m) (before ++ after)).numbers.Perm s.numbers := by
  simp only [numbers, Wire.numbers_put, holds, List.map_append, List.map_cons]
  rw [List.append_assoc, List.singleton_append]
  exact List.perm_middle.symm.append_left _

/-- What is so after any number of steps, of which each takes the next number or puts a frame on the
wire. -/
structure Numbered (inTurn : Prop) (s : Sending) (n : Nat) : Prop where
  /-- So many numbers were taken. -/
  last : s.wire.lastSeq = UInt64.ofNat n
  /-- None of them is lost, and none is there twice. -/
  all : s.numbers.Perm (upTo n)
  /-- Those on the wire come first, and all are in order. -/
  ordered : inTurn → s.numbers = upTo n

theorem Numbered.step {inTurn : Prop} {s t : Sending} {n : Nat} (numbered : Numbered inTurn s n)
    (step : Step inTurn s t) : ∃ n, Numbered inTurn t n := by
  cases step with
  | take p content =>
      have next : s.wire.lastSeq + 1 = UInt64.ofNat (n + 1) := by
        rw [numbered.last, UInt64.ofNat_add]
        rfl
      refine ⟨n + 1, next, ?_, ?_⟩
      · rw [numbers_take, upTo_succ, next]
        exact numbered.all.append_right _
      · intro turn
        rw [numbers_take, upTo_succ, next, numbered.ordered turn]
  | @put before after p m holds turn =>
      refine ⟨n, numbered.last, (perm_numbers_put holds).trans numbered.all, ?_⟩
      intro now
      obtain rfl := turn now
      rw [← numbered.ordered now]
      simp only [numbers, Wire.numbers_put, holds, List.nil_append, List.map_cons,
        List.append_assoc, List.singleton_append]

theorem exists_numbered {inTurn : Prop} {s : Sending} (run : Run inTurn {} s) :
    ∃ n, Numbered inTurn s n := by
  induction run with
  | refl => exact ⟨0, rfl, .nil, fun _ => rfl⟩
  | tail _ step ih =>
      obtain ⟨n, numbered⟩ := ih
      exact numbered.step step

/-- Once nobody is sending, each number from one on is on the wire once. If no message overtook
another, they are in order. -/
theorem numbers_on_the_wire {inTurn : Prop} {s : Sending} (run : Run inTurn {} s)
    (idle : s.held = []) :
    ∃ n, s.wire.numbers.Perm (upTo n) ∧ (inTurn → s.wire.numbers = upTo n) := by
  have all : s.numbers = s.wire.numbers := by
    rw [numbers, idle, List.map_nil, List.append_nil]
  obtain ⟨n, numbered⟩ := exists_numbered run
  rw [← all]
  exact ⟨n, numbered.all, numbered.ordered⟩

/-- The worker takes its number between the two steps of the request loop, and its frame is on the
wire before that of the request loop. So the second number comes first. -/
theorem numbers_out_of_order : ∃ s, Run False {} s ∧ s.held = [] ∧ s.wire.numbers = [2, 1] := by
  let answer : Message := ⟨1, "response", .success 1 "threads" none⟩
  let output : Message := ⟨2, "event", outputEvent "a"⟩
  have first : Step False {} ⟨⟨1, #[]⟩, [(.loop, answer)]⟩ := .take .loop answer.content nofun
  have second : Step False ⟨⟨1, #[]⟩, [(.loop, answer)]⟩
      ⟨⟨2, #[]⟩, [(.loop, answer), (.worker, output)]⟩ :=
    .take .worker output.content (by simp)
  have third : Step False ⟨⟨2, #[]⟩, [(.loop, answer), (.worker, output)]⟩
      ⟨⟨2, #[output]⟩, [(.loop, answer)]⟩ :=
    @Step.put _ _ [(.loop, answer)] [] _ _ rfl False.elim
  have last : Step False ⟨⟨2, #[output]⟩, [(.loop, answer)]⟩ ⟨⟨2, #[output, answer]⟩, []⟩ :=
    @Step.put _ _ [] [] _ _ rfl False.elim
  exact ⟨_, .tail (.tail (.tail (.single first) second) third) last, rfl, rfl⟩

end Sending

end GuestDebugger.Adapter
