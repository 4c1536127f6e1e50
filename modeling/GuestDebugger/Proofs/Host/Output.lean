import GuestDebugger.Host
import GuestDebugger.Proofs.Host.Decoding

/-! # Output of many writes

Whatever is written and taken in turn, nothing of it is lost and nothing comes twice: what was taken
and what still waits is what each write stands for by itself, one after the other. A write does not
know of the bytes before it, so a character that two writes share is not put together. -/

namespace GuestDebugger.Host

/-- A call that has to do with the output. -/
inductive OutputCall where
  /-- The guest writes bytes. -/
  | write (bytes : List UInt8)
  /-- What was not taken yet is taken. -/
  | take
deriving DecidableEq, Repr

/-- The bytes of the writes among calls. -/
def writes (calls : List OutputCall) : List (List UInt8) :=
  calls.filterMap fun
    | .write bytes => some bytes
    | .take => none

theorem writes_write (bytes : List UInt8) (calls : List OutputCall) :
    writes (.write bytes :: calls) = bytes :: writes calls := rfl

/-- What comes of calls. -/
structure OutputRun where
  /-- The texts that were taken, in order. -/
  taken : List String
  /-- The sum of what the writes gave. -/
  count : Nat
  /-- The host afterwards. -/
  host : Host

/-- Makes calls one after the other. -/
def runOutput (h : Host) : List OutputCall → OutputRun
  | [] => ⟨[], 0, h⟩
  | .write bytes :: calls =>
      let (count, h) := h.write bytes
      let run := h.runOutput calls
      { run with count := count + run.count }
  | .take :: calls =>
      let (text, h) := h.takeOutput
      let run := h.runOutput calls
      { run with taken := text :: run.taken }

/-- All of the output: what was taken and what was not. -/
def OutputRun.output (run : OutputRun) : String := String.join run.taken ++ run.host.output

/-- The induction is on the calls: a write adds its text behind what waits, and taking moves what
waits to what was taken. -/
theorem output_runOutput (h : Host) (calls : List OutputCall) :
    (h.runOutput calls).output =
      h.output ++ String.join ((writes calls).map Text.decodeLossy) := by
  induction calls generalizing h with
  | nil => simp [runOutput, OutputRun.output, writes]
  | cons call calls ih =>
      cases call with
      | write bytes =>
          change ((h.write bytes).2.runOutput calls).output = _
          rw [ih, writes_write, List.map_cons, String.join_cons, ← String.append_assoc]
          rfl
      | take =>
          have taken : (h.runOutput (.take :: calls)).output =
              h.output ++ (h.takeOutput.2.runOutput calls).output := by
            rw [OutputRun.output, OutputRun.output, ← String.append_assoc]
            exact congrArg (· ++ _) String.join_cons
          have drained : h.takeOutput.2.output = "" := rfl
          rw [taken, ih, drained, String.empty_append]
          rfl

theorem count_runOutput (h : Host) (calls : List OutputCall) :
    (h.runOutput calls).count = (writes calls).flatten.length := by
  induction calls generalizing h with
  | nil => rfl
  | cons call calls ih =>
      cases call with
      | write bytes =>
          rw [writes_write, List.flatten_cons, List.length_append]
          exact congrArg (bytes.length + ·) (ih _)
      | take => exact ih _

/-- The output is that of the writes taken singly, whenever some of it is taken, and the writes give
the number of their bytes. It is what the bytes of all writes together stand for exactly if no two
writes cut a character. -/
theorem output_of_writes (h : Host) (calls : List OutputCall) :
    let run := h.runOutput calls
    let bytes := (writes calls).flatten
    run.output = h.output ++ String.join ((writes calls).map Text.decodeLossy) ∧
      run.count = bytes.length ∧
      (run.output = h.output ++ Text.decodeLossy bytes ↔ ¬Text.CutsCharacter (writes calls)) := by
  refine ⟨output_runOutput h calls, count_runOutput h calls, ?_⟩
  rw [output_runOutput, String.append_right_inj]
  exact Text.decodeLossy_flatten_iff

/-- A character of two bytes that are written one by one comes out as two replacements. -/
theorem output_of_cut_character :
    let calls : List OutputCall := [.write [0xC3], .write [0xA9]]
    let run := (create 4 {}).runOutput calls
    run.output = "\uFFFD\uFFFD" ∧ Text.decodeLossy (writes calls).flatten = "é" ∧
      run.output ≠ Text.decodeLossy (writes calls).flatten := by
  decide

end GuestDebugger.Host
