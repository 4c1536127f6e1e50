import GuestDebugger.Proofs.Prompt.CutShort

/-! # What the prompt shows of a run

While the guest runs, its output is shown after every turn, and at last why it stopped. -/

namespace GuestDebugger.Prompt

variable {ε α : Type}

/-! ### Actions that end -/

/-- An action that comes to its end with a result, and the console after it. -/
def EndsWith (action : PromptM ε α) (c : Console ε) (a : α) (d : Console ε) : Prop :=
  action.run.run c = (.ok a, d)

/-- Where an action ends that comes to something at any sink: the sink took its text. -/
theorem EndsWith.eq_of_yields {action : PromptM ε α} {c d : Console ε} {a : α} {e : Effect ε α}
    (ends : EndsWith action c a d) (yields : Yields action c.session c.flag e) :
    e.outcome = .ok a ∧ d = ⟨e.session, c.sink.put e.text, e.flag⟩ := by
  by_cases takes : c.sink.Takes e.text
  · obtain ⟨outcome, rfl⟩ := Prod.mk.inj ((yields.whole c.sink takes).symm.trans ends)
    exact ⟨outcome, rfl⟩
  · obtain ⟨_, failed, -⟩ := yields.cut c.sink takes
    cases failed.symm.trans ends

/-! ### The run -/

variable [Engine ε] [Engine.OutputUnseen ε]

/-- A run that comes to its end has shown its output in the pieces that its turns left, and then
why the guest stopped. -/
theorem endsWith_resume {fuel : Nat} {c d : Console ε}
    (ends : EndsWith (perform fuel .resume) c () d) :
    ∃ pieces, Session.runInPieces fuel c.session.startRunning c.flag = some (pieces, d.session) ∧
      d.sink = c.sink.put (shown pieces ++ reportText d.session) := by
  have started : EndsWith (runAndReport fuel) { c with session := c.session.startRunning } () d :=
    ends
  rw [runAndReport_eq] at started
  have shows := yields_showRun fuel c.session.startRunning c.flag
  simp only [showEffect] at shows
  rw [Session.runInPieces]
  cases ran : Session.runUntilStopped Session.collect fuel ⟨c.session.startRunning, c.flag, []⟩ with
  | none =>
      rw [ran] at shows
      cases (started.eq_of_yields shows.bind_error).1
  | some after =>
      obtain ⟨reason, r⟩ := after
      rw [ran] at shows
      have whole : Yields (do showRun fuel; flushOutput; report) c.session.startRunning c.flag _ :=
        shows.bind (yields_flush_report r.session r.flag)
      obtain ⟨-, rfl⟩ := started.eq_of_yields whole
      refine ⟨_, rfl, ?_⟩
      dsimp only [Session.collect]
      rw [shown_append, shown_singleton, String.append_assoc]

/-! ### Runs at two paces -/

open Session

/-- What a run shows at two paces. Both show the same output and then the same report, but the
output in other pieces, each of which ends its last line. So the two texts are the same exactly if
turns end inside lines of the output at the same places. -/
theorem resume_shows_same_output {s : Session Machine} (reached : Reachable s)
    (untimed : s.engine.listing.Untimed) (p q : Pace) (flag : StopFlag) (k : Sink)
    {fuel fuel' : Nat} {c d : Console Machine}
    (ends : EndsWith (perform fuel .resume) ⟨s.paced p, k, flag⟩ () c)
    (ends' : EndsWith (perform fuel' .resume) ⟨s.paced q, k, flag⟩ () d) :
    ∃ pieces pieces',
      runInPieces fuel (s.paced p).startRunning flag = some (pieces, c.session) ∧
      runInPieces fuel' (s.paced q).startRunning flag = some (pieces', d.session) ∧
      String.join pieces = String.join pieces' ∧ reportText c.session = reportText d.session ∧
      c.sink = k.put (shown pieces ++ reportText c.session) ∧
      d.sink = k.put (shown pieces' ++ reportText d.session) ∧
      (c.sink.written = d.sink.written ↔ marks pieces = marks pieces') := by
  obtain ⟨pieces, ran, text⟩ := endsWith_resume ends
  obtain ⟨pieces', ran', text'⟩ := endsWith_resume ends'
  obtain ⟨joined, follows⟩ := runInPieces_agree reached untimed ran ran'
  have report : reportText d.session = reportText c.session := by
    have location : ∀ a, d.session.location a = c.session.location a := by
      intro a
      simp only [Session.location, follows.labels]
    simp only [reportText, stopLines, follows.state, location]
  refine ⟨pieces, pieces', ran, ran', joined, report.symm, text, text', ?_⟩
  rw [text, text', ← shown_eq_iff joined, report]
  constructor
  · intro same
    have bytes : (shown pieces ++ reportText c.session).toUTF8 =
        (shown pieces' ++ reportText c.session).toUTF8 := (ByteArray.append_right_inj _).1 same
    have whole := String.toByteArray_inj.1 bytes
    exact (String.append_left_inj _).1 whole
  · intro same
    rw [same]

/-- Two instructions that write and one that ends the guest. In batches of one instruction each of
the writes is shown as a line of its own, in a single batch they are one line. -/
theorem resume_text_depends_on_pace :
    let listing := Listing.ofOps [(0x10, .write "a"), (0x11, .write "b"), (0x12, .exit 0)]
    let start := fun settings => Session.create (Machine.create listing 16) settings {}
    let run := fun settings => (perform 5 .resume).run.run (⟨start settings, {}, {}⟩ : Console _)
    let small : StepSettings := { initialBatchSize := 1, fastBatchMs := 0 }
    listing.Untimed ∧ (run small).1 = .ok () ∧ (run {}).1 = .ok () ∧
      (run small).2.sink.written = "a\nb\nexited with code 0\n".toUTF8 ∧
      (run {}).2.sink.written = "ab\nexited with code 0\n".toUTF8 ∧
      (run small).2.sink.written ≠ (run {}).2.sink.written := by
  decide +kernel

/-- The same program at two paces from a session with a breakpoint between the writes. There the
texts are the same. -/
theorem resume_shows_same_output_to_a_breakpoint :
    let listing := Listing.ofOps [(0x10, .write "a"), (0x11, .write "b"), (0x12, .exit 0)]
    let s := (create (Machine.create listing 16) {} {}).apply (.addBreakpoint 0x11 {})
    let p : Pace := ⟨1, {}, {}⟩
    let q : Pace := ⟨1000, {}, {}⟩
    let c := ((perform 5 .resume).run.run ⟨s.paced p, {}, {}⟩).2
    let d := ((perform 5 .resume).run.run ⟨s.paced q, {}, {}⟩).2
    Reachable s ∧ s.engine.listing.Untimed ∧
      EndsWith (perform 5 .resume) ⟨s.paced p, {}, {}⟩ () c ∧
      EndsWith (perform 5 .resume) ⟨s.paced q, {}, {}⟩ () d ∧
      ∃ pieces pieces',
        runInPieces 5 (s.paced p).startRunning {} = some (pieces, c.session) ∧
        runInPieces 5 (s.paced q).startRunning {} = some (pieces', d.session) ∧
        String.join pieces = String.join pieces' ∧ reportText c.session = reportText d.session ∧
        c.sink = Sink.put {} (shown pieces ++ reportText c.session) ∧
        d.sink = Sink.put {} (shown pieces' ++ reportText d.session) ∧
        (c.sink.written = d.sink.written ↔ marks pieces = marks pieces') := by
  intro listing s p q c d
  have reached : Reachable s := (reachable_create _ _ _ _).operation _
  have untimed : s.engine.listing.Untimed := by decide +kernel
  have ends : EndsWith (perform 5 .resume) ⟨s.paced p, {}, {}⟩ () c :=
    Prod.ext (by decide +kernel) rfl
  have ends' : EndsWith (perform 5 .resume) ⟨s.paced q, {}, {}⟩ () d :=
    Prod.ext (by decide +kernel) rfl
  exact ⟨reached, untimed, ends, ends',
    resume_shows_same_output reached untimed p q {} {} ends ends'⟩

end GuestDebugger.Prompt
