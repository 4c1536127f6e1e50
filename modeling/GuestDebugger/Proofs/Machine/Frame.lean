import GuestDebugger.Engine.Machine

/-! # What executing leaves alone

An instruction may change registers, memory, output and display. It never changes the program, the
break set or an exit code that is set, and it does no more to the clock than read it. If it fails,
the machine stays as it was. Batches inherit all but the last from the instructions in them. -/

namespace GuestDebugger

namespace Clock

/-- A clock that does not move when it is read. -/
def Still (c : Clock) : Prop := c.ticks = #[]

theorem Still.read {c : Clock} (still : c.Still) : c.read.2 = c := by
  have noTick : c.ticks[c.readings % c.ticks.size]? = none := by
    rw [show c.ticks = #[] from still]
    rfl
  simp only [Clock.read, noTick]

end Clock

namespace Host

theorem readClock_still {h : Host} (still : h.clock.Still) : h.readClock.2 = h := by
  have same : h.clock.read.2 = h.clock := still.read
  simp only [readClock, same]

/-- A host that differs from another one at most in its display. -/
def DrawnOn (h h' : Host) : Prop := h' = { h with display := h'.display }

theorem DrawnOn.trans {h h₁ h₂ : Host} (first : h.DrawnOn h₁) (second : h₁.DrawnOn h₂) :
    h.DrawnOn h₂ := by
  rw [DrawnOn] at first second ⊢
  rw [second, first]

/-- The host that a display call gives back is the one that was drawn on. -/
theorem DrawnOn.of_eq {α : Type} {h h' : Host} {r : Result α} {x : Except DisplayError α}
    (drawn : h.DrawnOn r.2) (eq : r = (x, h')) : h.DrawnOn h' := by
  rw [eq] at drawn
  exact drawn

theorem drawnOn_withDisplay {α : Type} (h : Host) (r : Display.Result α) :
    h.DrawnOn (h.withDisplay r).2 := rfl

theorem drawnOn_createSurface (h : Host) (options : SurfaceOptions) :
    h.DrawnOn (h.createSurface options).2 := by
  simp only [createSurface]
  split
  · rfl
  · split
    · rename_i eq
      exact (h.drawnOn_withDisplay _).of_eq eq
    · rename_i created eq
      have first : h.DrawnOn created := (h.drawnOn_withDisplay _).of_eq eq
      split
      · split <;> rename_i bound
        · exact first.trans ((created.drawnOn_withDisplay _).of_eq bound)
        · exact first.trans ((created.drawnOn_withDisplay _).of_eq bound)
      · exact first

/-- Only the first exit code is kept. -/
theorem exitCode_exit {h : Host} {code : Int32} (ended : h.exitCode = some code) (other : Int32) :
    (h.exit other).exitCode = some code := by
  simp only [exit, ended]

end Host

namespace Machine

/-- What one or more instructions leave alone. The clock may be read, so it is left alone if reading
does not move it. -/
structure Frame (m : Machine) (h : Host) (m' : Machine) (h' : Host) : Prop where
  /-- The program is the same. -/
  listing : m'.listing = m.listing
  /-- The break set is the same. -/
  breaks : m'.breaks = m.breaks
  /-- An exit code that is set stays. -/
  exitCode : ∀ code, h.exitCode = some code → h'.exitCode = some code
  /-- A clock that does not move when it is read does not move. -/
  clock : h.clock.Still → h'.clock = h.clock

namespace Frame

variable {m m₁ m₂ : Machine} {h h₁ h₂ : Host}

theorem refl (m : Machine) (h : Host) : Frame m h m h := ⟨rfl, rfl, fun _ => id, fun _ => rfl⟩

theorem trans (first : Frame m h m₁ h₁) (second : Frame m₁ h₁ m₂ h₂) : Frame m h m₂ h₂ where
  listing := second.listing.trans first.listing
  breaks := second.breaks.trans first.breaks
  exitCode code ended := second.exitCode code (first.exitCode code ended)
  clock still := by
    have same := first.clock still
    rw [second.clock (same ▸ still), same]

theorem readClock (m : Machine) (h : Host) : Frame m h m h.readClock.2 :=
  ⟨rfl, rfl, fun _ => id, Clock.Still.read⟩

/-- Drawing on the display is no more than a frame allows. -/
theorem of_drawnOn (listing : m₁.listing = m.listing) (breaks : m₁.breaks = m.breaks)
    (drawn : h.DrawnOn h₁) : Frame m h m₁ h₁ where
  listing := listing
  breaks := breaks
  exitCode code ended := by rw [drawn]; exact ended
  clock _ := by rw [drawn]

end Frame

/-- How an instruction ends: it is done, or it fails and the machine stays as it was. -/
inductive Stepped (m : Machine) (h : Host) : Ran Machine Unit → Prop
  | done {m' h'} (frame : Frame m h m' h') : Stepped m h ⟨m', h', .ok ()⟩
  | failed {h'} (e : EngineError) (drawn : h.DrawnOn h') : Stepped m h ⟨m, h', .error (.error e)⟩

theorem drawnOn_paint (h : Host) (surface : CreatedSurface) (byte : UInt8) :
    h.DrawnOn (paint h surface byte).2 := by
  simp only [paint]
  split
  · rfl
  · rfl
  · exact h.drawnOn_withDisplay _

/-- An instruction that succeeds after drawing. -/
theorem stepped_proceed {m m₁ : Machine} {h h₁ : Host} (next : Address)
    (frame : Frame m h m₁ h₁) : Stepped m h (m₁.proceed h₁ next) :=
  .done ⟨frame.listing, frame.breaks, frame.exitCode, frame.clock⟩

theorem stepped_execute (m : Machine) (h : Host) (op : Op) : Stepped m h (m.execute h op) := by
  cases op with
  | nop => exact stepped_proceed _ (.refl m h)
  | jump target => exact stepped_proceed _ (.refl m h)
  | move name value =>
      simp only [execute]
      split
      · exact stepped_proceed _ ⟨rfl, rfl, fun _ => id, fun _ => rfl⟩
      · exact .failed _ rfl
  | loop target => exact stepped_proceed _ ⟨rfl, rfl, fun _ => id, fun _ => rfl⟩
  | time => exact stepped_proceed _ ⟨rfl, rfl, fun _ => id, Clock.Still.read⟩
  | write text => exact stepped_proceed _ ⟨rfl, rfl, fun _ => id, fun _ => rfl⟩
  | writeLine text => exact stepped_proceed _ ⟨rfl, rfl, fun _ => id, fun _ => rfl⟩
  | exit code =>
      apply stepped_proceed
      refine ⟨rfl, rfl, ?_, ?_⟩
      · intro earlier ended
        exact Host.exitCode_exit ended code
      · intro _
        simp only [Host.exit]
        split <;> rfl
  | window title width height => exact stepped_proceed _ (.of_drawnOn rfl rfl rfl)
  | surface width height primary =>
      simp only [execute]
      have drawn := h.drawnOn_createSurface
        { width, height, primary, window := if primary then m.lastWindow else none }
      split <;> rename_i eq
      · exact .failed _ (drawn.of_eq eq)
      · exact stepped_proceed _ (.of_drawnOn rfl rfl (drawn.of_eq eq))
  | fill byte =>
      simp only [execute]
      split
      · exact .failed _ rfl
      · rename_i surface _
        have drawn := drawnOn_paint h surface byte
        split <;> rename_i eq
        · exact .failed _ (drawn.of_eq eq)
        · exact stepped_proceed _ (.of_drawnOn rfl rfl (drawn.of_eq eq))
  | flip =>
      simp only [execute]
      split
      · exact .failed _ rfl
      · rename_i surface _
        have drawn : h.DrawnOn (h.flip surface.handle).2 := h.drawnOn_withDisplay _
        split <;> rename_i eq
        · exact .failed _ (drawn.of_eq eq)
        · exact stepped_proceed _ (.of_drawnOn rfl rfl (drawn.of_eq eq))
  | poke address byte =>
      simp only [execute]
      split
      · exact stepped_proceed _ ⟨rfl, rfl, fun _ => id, fun _ => rfl⟩
      · exact .failed _ rfl
  | fault message => exact .failed _ rfl

/-- The inversion of a single instruction, from which everything about executing follows. -/
theorem stepped_step (m : Machine) (h : Host) : Stepped m h (m.step h) := by
  simp only [step]
  split
  · exact stepped_execute m h _
  · exact .failed _ rfl

/-- How one or more instructions end if the guest had not ended before them. The engine does not
crash, and a guest that fails has not ended. -/
structure Ends {α : Type} (m : Machine) (h : Host) (ran : Ran Machine α) : Prop where
  /-- Nothing but what instructions may change has changed. -/
  frame : Frame m h ran.engine ran.host
  /-- What did not finish is an instruction that failed. -/
  failed : ∀ halt, ran.outcome = .error halt →
    ∃ e, halt = .error e ∧ ran.host.exitCode = none

theorem ends_step (m : Machine) {h : Host} (alive : h.exitCode = none) : Ends m h (m.step h) := by
  have stepped := stepped_step m h
  generalize m.step h = ran at stepped ⊢
  cases stepped with
  | done frame => exact ⟨frame, fun _ eq => by cases eq⟩
  | failed e drawn =>
      refine ⟨.of_drawnOn rfl rfl drawn, ?_⟩
      intro halt eq
      cases eq
      exact ⟨e, rfl, by rw [drawn]; exact alive⟩

end Machine

end GuestDebugger
