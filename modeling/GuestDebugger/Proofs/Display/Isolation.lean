import GuestDebugger.Proofs.Display.Handles

/-! # Drawing off the screen

A primary surface holds its back buffer inside itself, and one number leads to both. Still a call
draws only where its handle says: a frame that is drawn to the back buffer is not seen before it is
presented, and presenting it shows exactly what was drawn.

A display may have more surfaces than there are numbers for them, so places are told apart from the
handles that name them. -/

namespace GuestDebugger

namespace Display

/-- Where a pixel buffer is: the number of its surface, and whether it is the back buffer. -/
structure Place where
  index : Nat
  attached : Bool
deriving DecidableEq

/-- The place that a handle names. -/
def placeOf (handle : SurfaceHandle) : Place := ⟨handle.index.toNat, handle.attached⟩

theorem placeOf_inj {handle other : SurfaceHandle} :
    placeOf handle = placeOf other ↔ handle = other := by
  cases handle
  cases other
  simp [placeOf, UInt32.toNat_inj]

/-- The pixel buffer at a place. -/
def bufferAt? (d : Display) (p : Place) : Option PixelBuffer :=
  d.surfaces[p.index]?.bind fun s => if p.attached then s.back else some s.front

/-- Where an operation draws. The handle of a back buffer presents nothing. -/
def Operation.target? : Operation → Option SurfaceHandle
  | .createWindow _ | .createSurface .. | .bindSurface .. => none
  | .writePixels handle _ => some handle
  | .flip handle => if handle.attached then none else some handle
  | .copyRect t => some t.target

variable {d e : Display} {handle : SurfaceHandle} {b : PixelBuffer}

theorem bufferAt?_placeOf : d.bufferAt? (placeOf handle) = some b ↔ d.buffer handle = .ok b := by
  rw [buffer_eq_ok_iff, bufferAt?, Option.bind_eq_some_iff]
  rfl

/-! ### One operation -/

/-- What an operation can do to the surfaces. -/
inductive Redrawn (d : Display) (target? : Option SurfaceHandle) : Display → Prop
  | same {e : Display} (kept : e.surfaces = d.surfaces) : Redrawn d target? e
  | added {e : Display} (s : Surface) (pushed : e.surfaces = d.surfaces.push s) :
      Redrawn d target? e
  | drawn (handle : SurfaceHandle) (b : PixelBuffer) (named : target? = some handle) :
      Redrawn d target? (d.setBuffer handle b)

theorem redrawn_apply (d : Display) (o : Operation) : Redrawn d o.target? (d.apply o) := by
  cases o with
  | createWindow options => exact .same rfl
  | createSurface width height primary =>
      simp only [apply, createSurface]
      split
      · exact .same rfl
      · exact .added _ rfl
  | bindSurface window surface =>
      simp only [apply, bindSurface]
      split
      · exact .same rfl
      · exact .same rfl
      · split <;> exact .same rfl
  | writePixels handle pixels =>
      simp only [apply, writePixels]
      split
      · exact .same rfl
      · exact .drawn handle _ rfl
  | flip handle =>
      simp only [apply, flip]
      split
      · exact .same rfl
      · rename_i own
        split
        · exact .same rfl
        · exact .drawn handle _ (if_neg own)
  | copyRect t =>
      simp only [apply, copyRect]
      split
      · exact .same rfl
      · exact .same rfl
      · exact .drawn t.target _ rfl

/-- Putting a buffer in place leaves every other place alone, also the other one of its surface. -/
theorem bufferAt?_setBuffer_of_ne {p : Place} (ne : placeOf handle ≠ p) :
    (d.setBuffer handle b).bufferAt? p = d.bufferAt? p := by
  simp only [bufferAt?, setBuffer, Array.getElem?_modify]
  split
  · rename_i index
    have attached : handle.attached ≠ p.attached := by
      intro attached
      apply ne
      cases p
      simp_all [placeOf]
    cases d.surfaces[p.index]? with
    | none => rfl
    | some s => cases first : handle.attached <;> cases second : p.attached <;> simp_all
  · rfl

theorem Redrawn.bufferAt? {target? : Option SurfaceHandle} {p : Place}
    (redrawn : Redrawn d target? e) (there : d.bufferAt? p = some b)
    (elsewhere : target?.map placeOf ≠ some p) : e.bufferAt? p = some b := by
  cases redrawn with
  | same kept => rwa [Display.bufferAt?, kept]
  | added s pushed =>
      obtain ⟨t, found, part⟩ := Option.bind_eq_some_iff.1 there
      rw [Display.bufferAt?, pushed, getElem?_push_of_some s found]
      exact part
  | drawn handle c named =>
      rw [named] at elsewhere
      rw [bufferAt?_setBuffer_of_ne fun same => elsewhere (congrArg some same), there]

/-- A handle that an operation does not draw to means the buffer that it meant. -/
theorem buffer_apply {o : Operation} (there : d.buffer handle = .ok b)
    (elsewhere : o.target? ≠ some handle) : (d.apply o).buffer handle = .ok b := by
  refine bufferAt?_placeOf.1 ((redrawn_apply d o).bufferAt? (bufferAt?_placeOf.2 there) ?_)
  intro same
  obtain ⟨target, named, place⟩ := Option.map_eq_some_iff.1 same
  exact elsewhere (named.trans (congrArg some (placeOf_inj.1 place)))

/-! ### Sequences of operations -/

/-- Each operation of a sequence that is addressed to a handle leaves its buffer as it was: it
fails, or it draws what was there. -/
def Spares (handle : SurfaceHandle) : Display → List Operation → Prop
  | _, [] => True
  | d, o :: rest =>
    (o.target? = some handle → (d.apply o).buffer handle = d.buffer handle) ∧
      Spares handle (d.apply o) rest

theorem spares_of_target_ne {operations : List Operation}
    (elsewhere : ∀ o ∈ operations, o.target? ≠ some handle) (d : Display) :
    Spares handle d operations := by
  induction operations generalizing d with
  | nil => trivial
  | cons o rest ih =>
      rw [List.forall_mem_cons] at elsewhere
      exact ⟨fun named => absurd named elsewhere.1, ih elsewhere.2 (d.apply o)⟩

/-- A buffer that is spared is the same in the end, whatever is drawn elsewhere. -/
theorem buffer_foldl_of_spares {operations : List Operation} (there : d.buffer handle = .ok b)
    (spared : Spares handle d operations) : (operations.foldl apply d).buffer handle = .ok b := by
  induction operations generalizing d with
  | nil => exact there
  | cons o rest ih =>
      obtain ⟨first, others⟩ := spared
      refine ih ?_ others
      by_cases named : o.target? = some handle
      · rw [first named, there]
      · exact buffer_apply there named

/-! ### Presenting -/

/-- What presenting a frame does: the surface keeps its shape and shows the frame, which is as long
as what it showed, and the back buffer keeps the frame. -/
structure Presents (d : Display) (primary back : SurfaceHandle) (frame : ByteArray) : Prop where
  done : (d.flip primary).1 = .ok ()
  shown : ∃ front, d.buffer primary = .ok front ∧ front.pixels.size = frame.size ∧
    (d.flip primary).2.buffer primary = .ok { front with pixels := frame }
  kept : ∃ b, d.buffer back = .ok b ∧ b.pixels = frame ∧ (d.flip primary).2.buffer back = .ok b

/-- Presenting a primary surface of a sound display shows what is in its back buffer. -/
theorem Sound.presents {primary back : SurfaceHandle} (sound : d.Sound)
    (attached : d.attached primary = .ok back) (there : d.buffer back = .ok b) :
    d.Presents primary back b.pixels := by
  obtain ⟨own, rfl, s, owner, -⟩ := attached_eq_ok_iff.1 attached
  have found := owner_eq_ok_iff.1 owner
  -- Both handles lead to one surface.
  obtain ⟨t, found', inside⟩ := buffer_eq_ok_iff.1 there
  rw [found] at found'
  obtain rfl : s = t := Option.some.inj found'
  have behind : s.back = some b := inside
  have front : d.buffer primary = .ok s.front :=
    buffer_eq_ok_iff.2 ⟨s, found, by simp [part, own]⟩
  have flipped : d.flip primary =
      (.ok (), d.setBuffer primary { s.front with pixels := b.pixels }) := by
    simp [Display.flip, own, owner, Except.bind, Surface.flip, behind]
  obtain ⟨whole, -⟩ := sound _ s found
  obtain ⟨whole', shape⟩ := whole.back b behind
  have size := whole.front.size_eq_of_sameShape whole' shape.symm
  have apart : ({ primary with attached := true } : SurfaceHandle) ≠ primary := by
    intro same
    rw [← same] at own
    cases own
  constructor
  · rw [flipped]
  · refine ⟨s.front, front, size, ?_⟩
    rw [flipped]
    exact buffer_setBuffer front
  · refine ⟨b, there, rfl, ?_⟩
    rw [flipped]
    exact (buffer_setBuffer_of_ne apart).trans there

/-- A buffer whose pixels were replaced shows the new ones. -/
theorem buffer_writePixels {frame : ByteArray} (written : (d.writePixels handle frame).1 = .ok ()) :
    ∃ b, (d.writePixels handle frame).2.buffer handle = .ok b ∧ b.pixels = frame := by
  simp only [writePixels] at written ⊢
  cases there : d.buffer handle with
  | error e => simp [there, Except.bind] at written
  | ok old =>
      cases replaced : old.write frame with
      | error e => simp [there, Except.bind, replaced] at written
      | ok b =>
          obtain ⟨-, same⟩ := PixelBuffer.write_eq_ok_iff.1 replaced
          exact ⟨b, by simpa [Except.bind, replaced] using buffer_setBuffer there, by rw [same]⟩

/-- An operation changes no buffer but the one that it draws to, and so what a surface shows stays
until something is drawn to its own handle. A frame that was drawn to the back buffer and is still
there is what presenting the surface shows, and it is still there afterwards. -/
theorem drawn_only_where_addressed :
    (∀ (d : Display) (o : Operation) (p : Place) (b : PixelBuffer),
        d.bufferAt? p = some b → o.target?.map placeOf ≠ some p →
          (d.apply o).bufferAt? p = some b) ∧
      (∀ (d : Display) (operations : List Operation) (h : SurfaceHandle) (b : PixelBuffer),
        d.buffer h = .ok b → (∀ o ∈ operations, o.target? ≠ some h) →
          (operations.foldl apply d).buffer h = .ok b) ∧
      ∀ (d : Display) (primary back : SurfaceHandle) (frame : ByteArray)
        (operations : List Operation),
        d.Reachable → d.attached primary = .ok back → (d.writePixels back frame).1 = .ok () →
          Spares back (d.apply (.writePixels back frame)) operations →
            ((.writePixels back frame :: operations).foldl apply d).Presents primary back
              frame := by
  refine ⟨fun d o p b => (redrawn_apply d o).bufferAt?, ?_, ?_⟩
  · intro d operations h b there elsewhere
    exact buffer_foldl_of_spares there (spares_of_target_ne elsewhere d)
  · intro d primary back frame operations reached attached written spared
    obtain ⟨b, there, rfl⟩ := buffer_writePixels written
    have still :=
      (kept_foldl d (.writePixels back b.pixels :: operations)).lasts.attached _ _ attached
    have last : (operations.foldl apply (d.apply (.writePixels back b.pixels))).buffer back =
        .ok b := buffer_foldl_of_spares there spared
    exact (reached.foldl _).sound.presents still last

/-- A primary surface of two pixels in a window, and a drawing of one pixel beside it. -/
def studio : Display :=
  [.createWindow {}, .createSurface 2 1 true, .createSurface 1 1 false,
    .bindSurface ⟨1⟩ ⟨0, false⟩].foldl apply (Display.create 1)

/-- A frame is drawn, and before it is presented the screen is scribbled on, a part of the frame is
copied to the drawing and to the screen, and what is wrongly asked of the back buffer is refused.
The screen is black as long as only the back buffer and the drawing are drawn to. -/
theorem drawn_only_where_addressed_of_studio :
    let primary : SurfaceHandle := ⟨0, false⟩
    let back : SurfaceHandle := ⟨0, true⟩
    let drawing : SurfaceHandle := ⟨1, false⟩
    let frame : ByteArray := ⟨#[7, 8]⟩
    let black : PixelBuffer := ⟨2, 1, 1, ⟨#[0, 0]⟩⟩
    let unseen : List Operation :=
      [.writePixels back frame, .copyRect ⟨drawing, 0, 0, back, 1, 0, 1, 1⟩,
        .copyRect ⟨back, 0, 0, primary, 0, 0, 2, 1⟩, .flip back]
    let between : List Operation :=
      [.writePixels back ⟨#[1]⟩, .flip back, .writePixels primary ⟨#[9, 9]⟩,
        .copyRect ⟨drawing, 0, 0, back, 1, 0, 1, 1⟩, .copyRect ⟨primary, 1, 0, back, 0, 0, 1, 1⟩]
    (studio.bufferAt? (placeOf primary) = some black ∧
      (studio.apply (.writePixels back frame)).bufferAt? (placeOf primary) = some black) ∧
      (studio.buffer primary = .ok black ∧ (∀ o ∈ unseen, o.target? ≠ some primary) ∧
        (unseen.foldl apply studio).buffer primary = .ok black) ∧
      studio.Reachable ∧ studio.attached primary = .ok back ∧
      (studio.writePixels back frame).1 = .ok () ∧
      Spares back (studio.apply (.writePixels back frame)) between ∧
      ((.writePixels back frame :: between).foldl apply studio).Presents primary back frame := by
  intro primary back drawing frame black unseen between
  have dark : studio.bufferAt? (placeOf primary) = some black := rfl
  have elsewhere : ∀ o ∈ unseen, o.target? ≠ some primary := by
    simp [unseen, Operation.target?, primary, back, drawing]
  have reached : studio.Reachable := (Reachable.create 1).foldl _
  have spared : Spares back (studio.apply (.writePixels back frame)) between := by
    refine ⟨fun _ => rfl, spares_of_target_ne ?_ _⟩
    simp [Operation.target?, primary, back, drawing]
  obtain ⟨one, run, presented⟩ := drawn_only_where_addressed
  exact ⟨⟨dark, one _ _ _ _ dark (by decide)⟩,
    ⟨rfl, elsewhere, run _ _ _ _ rfl elsewhere⟩, reached, rfl, rfl, spared,
    presented _ _ _ _ _ reached rfl rfl spared⟩

end Display

end GuestDebugger
