import GuestDebugger.Proofs.Machine.Trace
import GuestDebugger.Text.Lemmas

/-! # What instructions write

An instruction adds its text to the output of the host, and only instructions that write have one.
So the output of a watched machine can be read off its log. -/

namespace GuestDebugger

/-- The text that an instruction writes. -/
def Op.written : Op → String
  | write text => text
  | writeLine text => text ++ "\n"
  | _ => ""

namespace Listing

/-- The text that an attempt wrote. One that failed wrote nothing. -/
def writtenBy (l : Listing) (x : Attempt) : String :=
  if x.completed then ((l.get? x.address).map Op.written).getD "" else ""

/-- The texts of attempts, one after the other. -/
def written (l : Listing) (log : List Attempt) : String := String.join (log.map l.writtenBy)

theorem written_append (l : Listing) (log new : List Attempt) :
    l.written (log ++ new) = l.written log ++ l.written new := by
  simp only [written, List.map_append, String.join_append]

theorem written_singleton (l : Listing) (x : Attempt) : l.written [x] = l.writtenBy x := by
  simp [written, String.join]

end Listing

theorem Host.DrawnOn.output {h h' : Host} (drawn : h.DrawnOn h') : h'.output = h.output := by
  rw [drawn]

namespace Machine

/-- An instruction adds its text to the output. -/
theorem output_execute (m : Machine) (h : Host) (op : Op) :
    (m.execute h op).host.output = h.output ++ op.written := by
  cases op with
  | write text =>
      change h.output ++ Text.decodeLossy (Text.encode text) = _
      rw [Text.decodeLossy_encode]
      rfl
  | writeLine text =>
      change h.output ++ Text.decodeLossy (Text.encode (text ++ "\n")) = _
      rw [Text.decodeLossy_encode]
      rfl
  | move name value =>
      simp only [Op.written, String.append_empty, execute]
      split <;> rfl
  | poke address byte =>
      simp only [Op.written, String.append_empty, execute]
      split <;> rfl
  | exit code =>
      simp only [Op.written, String.append_empty]
      change (h.exit code).output = h.output
      simp only [Host.exit]
      split <;> rfl
  | surface width height primary =>
      have drawn := h.drawnOn_createSurface
        { width, height, primary, window := if primary then m.lastWindow else none }
      simp only [Op.written, String.append_empty, execute]
      split <;> rename_i eq <;> exact (drawn.of_eq eq).output
  | fill byte =>
      simp only [Op.written, String.append_empty, execute]
      split
      · rfl
      · rename_i surface _
        have drawn := drawnOn_paint h surface byte
        split <;> rename_i eq <;> exact (drawn.of_eq eq).output
  | flip =>
      simp only [Op.written, String.append_empty, execute]
      split
      · rfl
      · rename_i surface _
        have drawn : h.DrawnOn (h.flip surface.handle).2 := h.drawnOn_withDisplay _
        split <;> rename_i eq <;> exact (drawn.of_eq eq).output
  | nop | jump | loop | time | window | fault =>
      simp only [Op.written, String.append_empty]
      rfl

end Machine

namespace Watched

/-- What the host was given since its output was `base` is what the log tells. -/
structure Told (base : String) (listing : Listing) (w : Watched) (h : Host) : Prop where
  program : w.machine.listing = listing
  output : h.output = base ++ listing.written w.log

variable {base : String} {listing : Listing} {w : Watched} {h : Host}

theorem Told.step (told : Told base listing w h) :
    Told base listing (w.step h).engine (w.step h).host := by
  have stepped := Machine.stepped_step w.machine h
  have text : ((w.machine.step h).outcome.isOk = true →
      (w.machine.step h).host.output =
        h.output ++ listing.writtenBy ⟨w.machine.pc, true⟩) := by
    intro done
    rw [← told.program]
    simp only [Machine.step, Listing.writtenBy] at done ⊢
    cases found : w.machine.listing.get? w.machine.pc with
    | none =>
        rw [found] at done
        cases done
    | some op => exact w.machine.output_execute h op
  simp only [Watched.step]
  generalize w.machine.step h = ran at stepped text ⊢
  cases stepped with
  | done frame =>
      refine ⟨frame.listing.trans told.program, ?_⟩
      rw [Listing.written_append, Listing.written_singleton, ← String.append_assoc, ← told.output]
      exact text rfl
  | failed e drawn =>
      refine ⟨told.program, ?_⟩
      rw [Listing.written_append, Listing.written_singleton, ← String.append_assoc, ← told.output,
        drawn.output]
      exact (String.append_empty).symm

/-- The induction follows the batch. -/
theorem Told.runBatch (told : Told base listing w h) (done : UInt32) (fuel : Nat) :
    Told base listing (runBatch done fuel w h).engine (runBatch done fuel w h).host := by
  induction fuel generalizing done w h with
  | zero => exact told
  | succ fuel ih =>
      have first := told.step
      simp only [Watched.runBatch]
      split
      · exact told
      · generalize w.step h = ran at first ⊢
        obtain ⟨w', h', outcome⟩ := ran
        cases outcome with
        | error halt => exact first
        | ok =>
            dsimp only
            split
            · exact first
            · exact ih first (done + 1)

theorem Told.stepMany (told : Told base listing w h) (count : UInt32) :
    Told base listing (Engine.stepMany w h count).engine (Engine.stepMany w h count).host :=
  told.runBatch 0 count.toNat

theorem Told.of_output_eq {h' : Host} (told : Told base listing w h)
    (same : h'.output = h.output) : Told base listing w h' :=
  ⟨told.program, same.trans told.output⟩

end Watched

end GuestDebugger
