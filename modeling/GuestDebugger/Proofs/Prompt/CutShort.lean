import GuestDebugger.Proofs.Prompt.Effects
import GuestDebugger.Proofs.Session.Waiting

/-! # Sinks that fail

A sink with a limit gets what the prompt writes byte for byte, as far as it takes it, and then the
prompt ends with the failure of the sink. Nothing is written that would not have been written
otherwise, and nothing is left out before the limit.

## Implementation notes

Most texts end the prompt at once if they are not taken. Between the turns of a running guest a
failure is only noted, and the guest goes on without being shown. It gets to the stop that it would
have come to, since engines do not see the output that waits, and only there does the prompt end. -/

namespace GuestDebugger.Prompt

variable {ε : Type} {s : Session ε} {flag : StopFlag}

/-- Once a piece was not taken, nothing is shown between turns. -/
theorem showBetweenTurns_of_not_takes {k : Sink} {pieces : List String}
    (fails : ¬k.Takes (shown pieces)) (piece : String) :
    showBetweenTurns ⟨s, flag, k.write (shown pieces)⟩ =
      ⟨s, flag, k.write (shown (pieces ++ [piece]))⟩ := by
  rw [shown_append, Sink.write_append_of_not_takes fails, Sink.write_of_not_takes fails]
  rfl

/-! ### Runs side by side -/

/-- A run that shows its output to a sink, beside one that collects it. The sink has got the output
as far as it takes it. From where it failed on, the output waits before what comes later. -/
structure Shows (k : Sink) (r : Session.Run ε (List String)) (q : Session.Run ε (Bool × Sink)) :
    Prop where
  flag : q.flag = r.flag
  caller : q.caller = k.write (shown r.caller)
  session : ∃ text, q.session = r.session.holding text ∧ (k.Takes (shown r.caller) → text = "")

variable {k : Sink} {r : Session.Run ε (List String)} {q : Session.Run ε (Bool × Sink)}

theorem shows_start (s : Session ε) (flag : StopFlag) (k : Sink) :
    Shows k ⟨s, flag, []⟩ ⟨s, flag, k.write (shown [])⟩ :=
  ⟨rfl, rfl, "", s.holding_empty.symm, fun _ => rfl⟩

namespace Shows

theorem session_eq (shows : Shows k r q) (takes : k.Takes (shown r.caller)) :
    q.session = r.session := by
  obtain ⟨text, same, whole⟩ := shows.session
  rw [same, whole takes, Session.holding_empty]

/-- Between turns, either both take the output, or the sink has failed and it goes on to wait. -/
theorem between (shows : Shows k r q) : Shows k (Session.collect r) (showBetweenTurns q) := by
  obtain ⟨flag, caller, text, session, whole⟩ := shows
  obtain ⟨s, _, pieces⟩ := r
  obtain ⟨t, _, _⟩ := q
  dsimp only at flag caller session whole
  subst flag caller session
  by_cases takes : k.Takes (shown pieces)
  · rw [whole takes, Session.holding_empty, showBetweenTurns_of_takes takes]
    exact ⟨rfl, rfl, "", (Session.holding_empty _).symm, fun _ => rfl⟩
  · rw [showBetweenTurns_of_not_takes takes s.takeOutput.1]
    refine ⟨rfl, rfl, text ++ s.takeOutput.1, (s.holding_takeOutput text).symm, fun later => ?_⟩
    dsimp only [Session.collect] at later
    rw [shown_append] at later
    exact absurd (Sink.takes_append.1 later).1 takes

variable [Engine ε] [Engine.OutputUnseen ε]

/-- A turn does the same beside the other, since engines do not see the output that waits. -/
theorem turn (shows : Shows k r q) {x : Turn × Session ε}
    (ran : (if r.flag.requested then r.session.stopRunning else r.session).runTurn = x) :
    ∃ t, (if q.flag.requested then q.session.stopRunning else q.session).runTurn = (x.1, t) ∧
      Shows k { r with session := x.2, flag := {} } { q with session := t, flag := {} } := by
  obtain ⟨text, session, whole⟩ := shows.session
  refine ⟨x.2.holding text, ?_, rfl, shows.caller, text, rfl, whole⟩
  have before : (if r.flag.requested then (r.session.holding text).stopRunning
      else r.session.holding text) =
        (if r.flag.requested then r.session.stopRunning else r.session).holding text := by
    rw [Session.stopRunning_holding]
    split <;> rfl
  rw [session, shows.flag, before, Session.runTurn_holding, ran]

/-- The runs come to an end in the same turn, if at all. The induction is on the turns. -/
theorem runUntilStopped (shows : Shows k r q) (fuel : Nat) :
    Option.Rel (fun a b => b.1 = a.1 ∧ Shows k a.2 b.2)
      (Session.runUntilStopped Session.collect fuel r)
      (Session.runUntilStopped showBetweenTurns fuel q) := by
  induction fuel generalizing r q with
  | zero => exact .none
  | succ fuel ih =>
      rw [Session.runUntilStopped_succ, Session.runUntilStopped_succ]
      generalize ran : (if r.flag.requested = true then r.session.stopRunning
        else r.session).runTurn = x
      obtain ⟨t, ran', after⟩ := shows.turn ran
      rw [ran']
      obtain ⟨turn, s⟩ := x
      cases turn with
      | goesOn => exact ih after.between
      | stopped reason => exact .some ⟨rfl, after⟩
      | idle =>
          obtain ⟨text, rfl, -⟩ := after.session
          exact .some ⟨rfl, after⟩

theorem runUntilStopped_eq_none (shows : Shows k r q) {fuel : Nat}
    (unended : Session.runUntilStopped Session.collect fuel r = none) :
    Session.runUntilStopped showBetweenTurns fuel q = none := by
  have beside := shows.runUntilStopped fuel
  rw [unended] at beside
  generalize Session.runUntilStopped showBetweenTurns fuel q = ran at beside ⊢
  cases beside
  rfl

theorem exists_runUntilStopped_eq_some (shows : Shows k r q) {fuel : Nat}
    {reason : Option StopReason} {r' : Session.Run ε (List String)}
    (ended : Session.runUntilStopped Session.collect fuel r = some (reason, r')) :
    ∃ q', Session.runUntilStopped showBetweenTurns fuel q = some (reason, q') ∧ Shows k r' q' := by
  have beside := shows.runUntilStopped fuel
  rw [ended] at beside
  generalize Session.runUntilStopped showBetweenTurns fuel q = ran at beside ⊢
  cases beside with
  | @some _ after both =>
      obtain ⟨reason', q'⟩ := after
      obtain ⟨rfl, shows'⟩ := both
      exact ⟨q', rfl, shows'⟩

end Shows

/-! ### Every action at every sink -/

variable [Engine ε]

/-- Once the sink has failed, nothing is shown between turns any more. -/
theorem runUntilStopped_of_failed {fuel : Nat} {r r' : Session.Run ε (Bool × Sink)}
    {reason : Option StopReason} (failed : r.caller.1 = false)
    (ran : Session.runUntilStopped showBetweenTurns fuel r = some (reason, r')) :
    r'.caller = r.caller := by
  refine Session.invariant_runUntilStopped (P := fun q => q.caller = r.caller)
    (fun _ same => same) (fun q same => ?_) rfl ran
  have unshown : q.caller.1 = false := same ▸ failed
  simpa only [showBetweenTurns, unshown, Bool.false_eq_true, if_false] using same

variable [Engine.OutputUnseen ε]

theorem yields_showRun (fuel : Nat) (s : Session ε) (flag : StopFlag) :
    Yields (showRun fuel) s flag (showEffect fuel s flag) := by
  rw [showEffect]
  cases collected : Session.runUntilStopped Session.collect fuel ⟨s, flag, []⟩ with
  | none =>
      refine .of_silent rfl fun k => ?_
      rw [run_showRun, (shows_start s flag k).runUntilStopped_eq_none collected]
  | some after =>
      refine .of_write fun k => ?_
      obtain ⟨q, ran, shows⟩ := (shows_start s flag k).exists_runUntilStopped_eq_some collected
      refine ⟨q.session, shows.session_eq, ?_⟩
      rw [run_showRun, ran]
      dsimp only
      rw [shows.caller, shows.flag]

theorem yielding_runAndReport (fuel : Nat) : Yielding (runAndReport fuel : PromptM ε Unit) := by
  rw [runAndReport_eq]
  exact .bind (fun s flag => ⟨_, yields_showRun fuel s flag⟩) fun _ s flag =>
    ⟨_, yields_flush_report s flag⟩

theorem compositional_yielding (fuel : Nat) :
    Compositional fuel fun (α : Type) (action : PromptM ε α) => Yielding action where
  pure a s flag := ⟨_, yields_pure a s flag⟩
  throw failure s flag := ⟨_, yields_throw failure s flag⟩
  bind first second := first.bind second
  session s flag := ⟨_, yields_session s flag⟩
  setSession t s flag := ⟨_, yields_setSession s t flag⟩
  write text s flag := ⟨_, yields_write text s flag⟩
  flushOutput s flag := ⟨_, yields_flushOutput s flag⟩
  runAndReport := yielding_runAndReport fuel

/-! ### The prompt -/

/-- To a sink with a limit the prompt writes the beginning that fits of the text that it writes to
one without, and not a byte more. If that is all, it comes to the same result, session and stop
flag, and otherwise it ends with the failure of the sink. Once a text was not taken between the
turns of a guest, the rest of the run writes nothing, even if there is room. -/
theorem serve_cut_short {fuel : Nat} {input : List UInt8} {s : Session ε} {flag : StopFlag}
    {outcome : Except PromptFailure Unit} {c : Console ε}
    (served : serve fuel input ⟨s, {}, flag⟩ = (outcome, c)) :
    (∀ limit : Nat, ∃ d, serve fuel input ⟨s, { room := some limit }, flag⟩ =
        (if c.sink.written.size ≤ limit then outcome else .error .sinkFull, d) ∧
      d.sink.written = c.sink.written.extract 0 (min limit c.sink.written.size) ∧
      (c.sink.written.size ≤ limit → d.session = c.session ∧ d.flag = c.flag)) ∧
    ∀ (turns : Nat) (r r' : Session.Run ε (Bool × Sink)) (reason : Option StopReason),
      r.caller.1 = false →
        Session.runUntilStopped showBetweenTurns turns r = some (reason, r') →
          r'.caller = r.caller := by
  refine ⟨fun limit => ?_, fun turns r r' reason => runUntilStopped_of_failed⟩
  obtain ⟨e, whole, cut⟩ := (compositional_yielding fuel).loop (Text.byteLines input) s flag
  have done := whole {} (Sink.takes_of_unlimited rfl)
  obtain ⟨rfl, rfl⟩ := Prod.mk.inj (served.symm.trans done)
  have written : (Sink.put {} e.text).written = e.text.toUTF8 := ByteArray.empty_append
  rw [written]
  have limited : ({ room := some limit } : Sink).room = some limit := rfl
  by_cases fits : e.text.toUTF8.size ≤ limit
  · have takes : ({ room := some limit } : Sink).Takes e.text :=
      Sink.takes_iff.2 fun room same => Option.some.inj same ▸ fits
    rw [if_pos fits]
    refine ⟨_, whole { room := some limit } takes, ?_, fun _ => ⟨rfl, rfl⟩⟩
    rw [Nat.min_eq_right fits, ByteArray.extract_zero_size]
    exact ByteArray.empty_append
  · have large := Nat.lt_of_not_le fits
    have fails : ¬({ room := some limit } : Sink).Takes e.text :=
      Sink.not_takes_iff.2 ⟨limit, rfl, large⟩
    obtain ⟨d, ran, sink⟩ := cut { room := some limit } fails
    rw [if_neg fits]
    refine ⟨d, ran, ?_, fun all => absurd all fits⟩
    rw [sink, Nat.min_eq_left (Nat.le_of_lt large), Sink.write, Sink.writeBytes_of_room limited]
    exact ByteArray.empty_append

/-- A guest that writes two lines in a turn each and ends. The sink fails inside of the first. -/
theorem serve_cut_short_between_turns :
    let listing := Listing.ofOps [(0x10, .writeLine "ab"), (0x11, .writeLine "cd"), (0x12, .exit 0)]
    let small : StepSettings := { initialBatchSize := 1, fastBatchMs := 0 }
    let s := Session.create (Machine.create listing 16) small {}
    let input := "c\n".toUTF8.toList
    let served := serve 5 input (⟨s, {}, {}⟩ : Console Machine)
    let cut := serve 5 input (⟨s, { room := some 13 }, {}⟩ : Console Machine)
    let unshown : Session.Run Machine (Bool × Sink) := ⟨s.startRunning, {}, false, {}⟩
    served.1 ≠ .error .unfinished ∧
      served.2.sink.written =
        "0x00000010> ab\ncd\nexited with code 0\n0x00000013> \n".toUTF8 ∧
      cut.1 = .error .sinkFull ∧ cut.2.sink.written = "0x00000010> a".toUTF8 ∧
      ∃ reason r, unshown.caller.1 = false ∧
        Session.runUntilStopped showBetweenTurns 5 unshown = some (reason, r) ∧
        r.caller = unshown.caller := by
  intro listing small s input served cut unshown
  have finished : served.1 ≠ .error .unfinished := by decide +kernel
  have text : served.2.sink.written =
      "0x00000010> ab\ncd\nexited with code 0\n0x00000013> \n".toUTF8 := by decide +kernel
  obtain ⟨limited, noted⟩ := serve_cut_short (c := served.2) rfl
  obtain ⟨d, ran, written, -⟩ := limited 13
  rw [text] at ran written
  obtain ⟨ended, rfl⟩ : cut.1 = .error .sinkFull ∧ cut.2 = d := Prod.mk.inj ran
  have stops : (Session.runUntilStopped showBetweenTurns 5 unshown).isSome = true := by
    decide +kernel
  obtain ⟨⟨reason, r⟩, stopped⟩ := Option.isSome_iff_exists.1 stops
  refine ⟨finished, text, ended, ?_, reason, r, rfl, stopped, noted 5 unshown r reason rfl stopped⟩
  rw [written]
  decide +kernel

end GuestDebugger.Prompt
