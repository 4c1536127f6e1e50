import GuestDebugger.AddressMap.Lemmas
import GuestDebugger.Proofs.Display.Failures
import GuestDebugger.Proofs.Machine.Batch
import GuestDebugger.Proofs.Machine.Trace

/-! # What instructions neither see nor touch

No instruction looks at the break set or at the output that waits to be taken, and none but the one
that asks for the time looks at the clock. So another break set, more output and another clock are
passed on as they are. An instruction that fails touches nothing at all. -/

namespace GuestDebugger

/-! ### Output and clock -/

/-- A program that does not ask for the time. -/
def Listing.Untimed (l : Listing) : Prop := ∀ e ∈ l.ops.toList, e.2 ≠ .time

instance (l : Listing) : Decidable l.Untimed :=
  inferInstanceAs (Decidable (∀ e ∈ l.ops.toList, e.2 ≠ .time))

theorem Listing.Untimed.get?_ne {l : Listing} (untimed : l.Untimed) (a : Address) :
    l.get? a ≠ some .time := by
  intro time
  exact untimed _ (AddressMap.get?_eq_some_iff.1 time) rfl

/-- A host with a text before the output that waits, and another clock. -/
def Host.behind (h : Host) (text : String) (clock : Clock) : Host :=
  { h with output := text ++ h.output, clock }

/-- What executing leaves behind on another host. -/
def Ran.mapHost {ε α : Type} (f : Host → Host) (ran : Ran ε α) : Ran ε α :=
  ⟨ran.engine, f ran.host, ran.outcome⟩

namespace Host

variable (h : Host) (text : String) (clock : Clock)

theorem withDisplay_behind {α : Type} (r : Display.Result α) :
    (h.behind text clock).withDisplay r =
      ((h.withDisplay r).1, (h.withDisplay r).2.behind text clock) := rfl

theorem createSurface_behind (options : SurfaceOptions) :
    (h.behind text clock).createSurface options =
      ((h.createSurface options).1, (h.createSurface options).2.behind text clock) := by
  have display : (h.behind text clock).display = h.display := rfl
  have check : (h.behind text clock).checkWindow options = h.checkWindow options := rfl
  simp only [createSurface, check, display, withDisplay_behind]
  cases h.checkWindow options with
  | error e => rfl
  | ok =>
      obtain ⟨outcome, h₁⟩ := h.withDisplay
        (h.display.createSurface options.width options.height options.primary)
      cases outcome with
      | error e => rfl
      | ok surface =>
          dsimp only
          split
          · have display₁ : (h₁.behind text clock).display = h₁.display := rfl
            rename_i window _ _
            rw [withDisplay_behind, display₁]
            obtain ⟨outcome, h₂⟩ := h₁.withDisplay (h₁.display.bindSurface window surface)
            cases outcome <;> rfl
          · rfl

theorem exit_behind (code : Int32) :
    (h.behind text clock).exit code = (h.exit code).behind text clock := by
  have same : (h.behind text clock).exitCode = h.exitCode := rfl
  simp only [exit, same]
  cases h.exitCode <;> rfl

theorem write_behind (bytes : List UInt8) :
    (h.behind text clock).write bytes =
      ((h.write bytes).1, (h.write bytes).2.behind text clock) := by
  simp only [write, behind, String.append_assoc]

end Host

namespace Machine

theorem paint_behind (h : Host) (text : String) (clock : Clock) (surface : CreatedSurface)
    (byte : UInt8) :
    paint (h.behind text clock) surface byte =
      ((paint h surface byte).1, (paint h surface byte).2.behind text clock) := by
  have target : paintTarget (h.behind text clock) surface.handle =
    paintTarget h surface.handle := rfl
  simp only [paint, target]
  split <;> rfl

/-- An instruction that does not ask for the time passes output and clock on. -/
theorem execute_behind (m : Machine) (h : Host) {op : Op} (untimed : op ≠ .time) (text : String)
    (clock : Clock) :
    m.execute (h.behind text clock) op =
      (m.execute h op).mapHost (·.behind text clock) := by
  cases op with
  | time => exact absurd rfl untimed
  | nop | jump | loop | window | fault => rfl
  | move name value =>
      simp only [execute]
      split <;> rfl
  | poke address byte =>
      simp only [execute]
      split <;> rfl
  | write text' =>
      simp only [execute, Host.write_behind]
      rfl
  | writeLine text' =>
      simp only [execute, Host.write_behind]
      rfl
  | exit code =>
      simp only [execute, Host.exit_behind]
      rfl
  | surface width height primary =>
      simp only [execute, Host.createSurface_behind]
      obtain ⟨outcome, h'⟩ := h.createSurface
        { width, height, primary, window := if primary then m.lastWindow else none }
      cases outcome <;> rfl
  | fill byte =>
      simp only [execute]
      split
      · rfl
      · rename_i surface _
        rw [paint_behind]
        obtain ⟨outcome, h'⟩ := paint h surface byte
        cases outcome <;> rfl
  | flip =>
      simp only [execute]
      split
      · rfl
      · rename_i surface _
        have flipped : (h.behind text clock).flip surface.handle =
          ((h.flip surface.handle).1, (h.flip surface.handle).2.behind text clock) := rfl
        rw [flipped]
        obtain ⟨outcome, h'⟩ := h.flip surface.handle
        cases outcome <;> rfl

theorem step_behind (m : Machine) (h : Host) (untimed : m.listing.get? m.pc ≠ some .time)
    (text : String) (clock : Clock) :
    m.step (h.behind text clock) = (m.step h).mapHost (·.behind text clock) := by
  simp only [step]
  cases found : m.listing.get? m.pc with
  | none => rfl
  | some op =>
      exact m.execute_behind h (fun time => untimed (time ▸ found)) text clock

theorem listing_step (m : Machine) (h : Host) : (m.step h).engine.listing = m.listing := by
  have stepped := stepped_step m h
  generalize m.step h = ran at stepped ⊢
  cases stepped with
  | done frame => exact frame.listing
  | failed => rfl

/-- A batch of a program that does not ask for the time passes output and clock on; the induction
follows the batch. -/
theorem runBatch_behind {m : Machine} (untimed : m.listing.Untimed) (done : UInt32) (fuel : Nat)
    (h : Host) (text : String) (clock : Clock) :
    runBatch done fuel m (h.behind text clock) =
      (runBatch done fuel m h).mapHost (·.behind text clock) := by
  induction fuel generalizing done m h with
  | zero => rfl
  | succ fuel ih =>
      have first := m.step_behind h (untimed.get?_ne m.pc) text clock
      have listing := m.listing_step h
      simp only [runBatch, first]
      cases m.hasBreak m.pc with
      | true => rfl
      | false =>
          generalize m.step h = ran at listing
          obtain ⟨m₁, h₁, outcome⟩ := ran
          cases outcome with
          | error halt => rfl
          | ok =>
              have alive : (h₁.behind text clock).exitCode = h₁.exitCode := rfl
              have rest := ih (m := m₁) (listing ▸ untimed) (done + 1) h₁
              simp only [Ran.mapHost, alive, rest]
              cases h₁.exitCode.isSome <;> rfl

theorem stepMany_behind {m : Machine} (untimed : m.listing.Untimed) (count : UInt32) (h : Host)
    (text : String) (clock : Clock) :
    m.stepMany (h.behind text clock) count =
      (m.stepMany h count).mapHost (·.behind text clock) :=
  runBatch_behind untimed 0 count.toNat h text clock

/-! ### The break set -/

/-- A machine with another break set. -/
def withBreaks (breaks : AddressSet) (m : Machine) : Machine := { m with breaks }

theorem execute_withBreaks (m : Machine) (h : Host) (op : Op) (breaks : AddressSet) :
    (m.withBreaks breaks).execute h op = (m.execute h op).map (withBreaks breaks) := by
  cases op with
  | nop | jump | loop | time | write | writeLine | exit | window | fault => rfl
  | move name value =>
      simp only [execute]
      split <;> rfl
  | poke address byte =>
      have memory : (m.withBreaks breaks).memory = m.memory := rfl
      simp only [execute, memory]
      split <;> rfl
  | surface width height primary =>
      have window : (m.withBreaks breaks).lastWindow = m.lastWindow := rfl
      simp only [execute, window]
      split <;> rfl
  | fill byte =>
      have surface : (m.withBreaks breaks).lastSurface = m.lastSurface := rfl
      simp only [execute, surface]
      split
      · rfl
      · split <;> rfl
  | flip =>
      have surface : (m.withBreaks breaks).lastSurface = m.lastSurface := rfl
      simp only [execute, surface]
      split
      · rfl
      · split <;> rfl

theorem step_withBreaks (m : Machine) (h : Host) (breaks : AddressSet) :
    (m.withBreaks breaks).step h = (m.step h).map (withBreaks breaks) := by
  have found : (m.withBreaks breaks).listing.get? (m.withBreaks breaks).pc =
    m.listing.get? m.pc := rfl
  simp only [step, found]
  cases m.listing.get? m.pc with
  | none => rfl
  | some op => exact m.execute_withBreaks h op breaks

/-! ### Instructions that fail -/

variable {m : Machine} {h : Host} {halt : Halt}

theorem execute_of_error {op : Op} (failed : (m.execute h op).outcome = .error halt) :
    m.execute h op = ⟨m, h, .error halt⟩ := by
  cases op with
  | nop | jump | loop | time | write | writeLine | exit | window => cases failed
  | fault =>
      cases failed
      rfl
  | move name value =>
      simp only [execute] at failed ⊢
      split at failed
      · cases failed
      · cases failed
        rfl
  | poke address byte =>
      simp only [execute] at failed ⊢
      split at failed
      · cases failed
      · rename_i outside
        cases failed
        rw [dif_neg outside]
        rfl
  | surface width height primary =>
      simp only [execute] at failed ⊢
      split at failed
      · rename_i e h' refused
        cases failed
        have same := Host.createSurface_of_error (congrArg Prod.fst refused)
        rw [refused] at same
        exact same ▸ rfl
      · cases failed
  | fill byte =>
      simp only [execute] at failed ⊢
      split at failed
      · cases failed
        rfl
      · rename_i surface _
        split at failed
        · rename_i e h' refused
          cases failed
          have same : (paint h surface byte).2 = h := by
            simp only [paint] at refused ⊢
            split at refused
            · rfl
            · rfl
            · exact Host.writePixels_of_error (congrArg Prod.fst refused)
          rw [refused] at same
          exact same ▸ rfl
        · cases failed
  | flip =>
      simp only [execute] at failed ⊢
      split at failed
      · cases failed
        rfl
      · split at failed
        · rename_i e h' refused
          cases failed
          have same := Host.flip_of_error (congrArg Prod.fst refused)
          rw [refused] at same
          exact same ▸ rfl
        · cases failed

/-- An instruction that fails leaves machine and host as they are. -/
theorem step_of_error (failed : (m.step h).outcome = .error halt) :
    m.step h = ⟨m, h, .error halt⟩ := by
  simp only [step] at failed ⊢
  split at failed
  · exact execute_of_error failed
  · cases failed
    rfl

/-- Whether an instruction fails does not hang on the break set, the output or the clock. -/
theorem outcome_step_of_same (m : Machine) (h : Host) (breaks : AddressSet) (output : String)
    (clock : Clock) :
    ((m.withBreaks breaks).step { h with output, clock }).outcome = (m.step h).outcome := by
  rw [step_withBreaks]
  by_cases time : m.listing.get? m.pc = some .time
  · simp only [step, time]
    rfl
  · -- Both hosts come from the one without output.
    have behind : ∀ output clock, { h with output, clock } =
        ({ h with output := "" } : Host).behind output clock := by
      intro output clock
      simp only [Host.behind, String.append_empty]
    have drained : ∀ output clock, (m.step { h with output, clock }).outcome =
        (m.step { h with output := "" }).outcome := by
      intro output clock
      rw [behind, m.step_behind _ time]
      rfl
    exact (drained output clock).trans (drained h.output h.clock).symm

/-- A batch whose first instruction fails. -/
theorem stepMany_of_error {count : UInt32} (free : m.hasBreak m.pc = false) (positive : count ≠ 0)
    (failed : (m.step h).outcome = .error halt) : m.stepMany h count = ⟨m, h, .error halt⟩ := by
  obtain ⟨fuel, eq⟩ : ∃ fuel, count.toNat = fuel + 1 :=
    Nat.exists_eq_succ_of_ne_zero fun zero => positive (UInt32.toNat_inj.1 zero)
  rw [stepMany, eq, runBatch, free, step_of_error failed]
  rfl

end Machine

end GuestDebugger
