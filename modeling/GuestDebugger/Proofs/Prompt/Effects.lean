import GuestDebugger.Proofs.Prompt.Actions
import GuestDebugger.Proofs.Prompt.Layout
import GuestDebugger.Proofs.Session.Paces
import GuestDebugger.Sink.Lemmas

/-! # What an action at the prompt comes to

As long as the sink takes what is written, an action comes to a result, a session, a stop flag and
a text, and these depend on the session and the stop flag alone. At a sink that does not take the
text, a single action ends at once. -/

namespace GuestDebugger.Prompt

variable {ε α β : Type}

theorem run_bind {action : PromptM ε α} {next : α → PromptM ε β} (c : Console ε) :
    (action >>= next).run.run c =
      match action.run.run c with
      | (.ok a, d) => (next a).run.run d
      | (.error failure, d) => (.error failure, d) := by
  rw [ExceptT.run_bind, StateT.run_bind]
  obtain ⟨outcome, d⟩ := action.run.run c
  cases outcome <;> rfl

/-! ### Effects -/

/-- What an action comes to, as long as the sink takes what is written. -/
structure Effect (ε α : Type) where
  /-- The result. -/
  outcome : Except PromptFailure α
  /-- The session after it. -/
  session : Session ε
  /-- The stop flag after it. -/
  flag : StopFlag
  /-- The text that is written. -/
  text : String

/-- Whether a sink does not fail. Of a run that is cut off it is not told what was shown up to then,
so that a sink with a limit might have failed. -/
def Effect.Suits (e : Effect ε α) (k : Sink) : Prop :=
  k.Takes e.text ∧ (e.outcome = .error .unfinished → k.room = none)

/-- An action comes to an effect at all sinks that do not fail. -/
def HasEffect (action : PromptM ε α) (s : Session ε) (flag : StopFlag) (e : Effect ε α) : Prop :=
  ∀ k, e.Suits k → action.run.run ⟨s, k, flag⟩ = (e.outcome, ⟨e.session, k.put e.text, e.flag⟩)

/-- An action has an effect, whatever session it meets. -/
def Effective (action : PromptM ε α) : Prop := ∀ s flag, ∃ e, HasEffect action s flag e

/-- There is one effect. -/
theorem HasEffect.unique {action : PromptM ε α} {s : Session ε} {flag : StopFlag}
    {e e' : Effect ε α} (has : HasEffect action s flag e) (has' : HasEffect action s flag e') :
    e = e' := by
  have unlimited : ∀ e : Effect ε α, e.Suits {} := fun e =>
    ⟨Sink.takes_of_unlimited rfl, fun _ => rfl⟩
  have same := (has _ (unlimited e)).symm.trans (has' _ (unlimited e'))
  obtain ⟨outcome, session, flag', text⟩ := e
  obtain ⟨outcome', session', flag'', text'⟩ := e'
  obtain ⟨rfl, console⟩ := Prod.mk.inj same
  obtain ⟨rfl, sink, rfl⟩ := Console.mk.inj console
  have bytes := (ByteArray.append_right_inj _).1 (congrArg Sink.written sink)
  obtain rfl := String.toByteArray_inj.1 bytes
  rfl

variable {action : PromptM ε α} {next : α → PromptM ε β} {s t : Session ε} {flag flag' : StopFlag}
  {text : String}

theorem HasEffect.bind {a : α} {e : Effect ε β}
    (first : HasEffect action s flag ⟨.ok a, t, flag', text⟩)
    (second : HasEffect (next a) t flag' e) :
    HasEffect (action >>= next) s flag { e with text := text ++ e.text } := by
  rintro k ⟨takes, unlimited⟩
  obtain ⟨before, after⟩ := Sink.takes_append.1 takes
  rw [run_bind, first k ⟨before, nofun⟩]
  have done := second (k.put text) ⟨after, fun unfinished => Sink.room_put (unlimited unfinished)⟩
  rw [Sink.put_put] at done
  exact done

theorem HasEffect.bind_error {failure : PromptFailure}
    (first : HasEffect action s flag ⟨.error failure, t, flag', text⟩) :
    HasEffect (action >>= next) s flag ⟨.error failure, t, flag', text⟩ := by
  rintro k ⟨takes, unlimited⟩
  rw [run_bind, first k ⟨takes, fun unfinished => unlimited (by cases unfinished; rfl)⟩]

theorem Effective.bind (first : Effective action) (second : ∀ a, Effective (next a)) :
    Effective (action >>= next) := by
  intro s flag
  obtain ⟨⟨outcome, t, flag', text⟩, has⟩ := first s flag
  cases outcome with
  | error failure => exact ⟨_, has.bind_error⟩
  | ok a =>
      obtain ⟨e, has'⟩ := second a t flag'
      exact ⟨_, has.bind has'⟩

/-- To look at the session first does nothing. -/
theorem HasEffect.of_session {next : Session ε → PromptM ε β} {e : Effect ε β}
    (has : HasEffect (next s) s flag e) : HasEffect (session >>= next) s flag e := by
  rintro k suits
  rw [run_bind]
  exact has k suits

/-- Nor does it do anything to put the session back that is there. -/
theorem HasEffect.of_setSession {e : Effect ε α} (has : HasEffect action s flag e) :
    HasEffect (do setSession s; action) s flag e := by
  rintro k suits
  rw [run_bind]
  exact has k suits

/-! ### Sinks that fail -/

/-- What an action comes to at any sink. At one that does not take its text it ends with the failure
of the sink, and the sink has got the text as far as it takes it. -/
structure Yields (action : PromptM ε α) (s : Session ε) (flag : StopFlag) (e : Effect ε α) :
    Prop where
  whole : ∀ k : Sink, k.Takes e.text →
    action.run.run ⟨s, k, flag⟩ = (e.outcome, ⟨e.session, k.put e.text, e.flag⟩)
  cut : ∀ k : Sink, ¬k.Takes e.text →
    ∃ d, action.run.run ⟨s, k, flag⟩ = (.error .sinkFull, d) ∧ d.sink = (k.write e.text).2

/-- An action that comes to something at any sink, whatever session it meets. -/
def Yielding (action : PromptM ε α) : Prop := ∀ s flag, ∃ e, Yields action s flag e

namespace Yields

theorem hasEffect {e : Effect ε α} (yields : Yields action s flag e) :
    HasEffect action s flag e := fun k suits => yields.whole k suits.1

theorem bind {a : α} {e : Effect ε β}
    (first : Yields action s flag ⟨.ok a, t, flag', text⟩) (second : Yields (next a) t flag' e) :
    Yields (action >>= next) s flag { e with text := text ++ e.text } where
  whole := by
    intro k takes
    obtain ⟨before, after⟩ := Sink.takes_append.1 takes
    have done := second.whole (k.put text) after
    rw [Sink.put_put] at done
    rw [run_bind, first.whole k before]
    exact done
  cut := by
    intro k fails
    -- The sink fails in the second text, behind all of the first, or in the first already.
    by_cases takes : k.Takes text
    · have later : ¬(k.put text).Takes e.text := fun rest =>
        fails (Sink.takes_append.2 ⟨takes, rest⟩)
      obtain ⟨d, ran, sink⟩ := second.cut (k.put text) later
      refine ⟨d, ?_, ?_⟩
      · rw [run_bind, first.whole k takes]
        exact ran
      · rw [sink, Sink.write_append_of_takes takes]
    · obtain ⟨d, ran, sink⟩ := first.cut k takes
      refine ⟨d, ?_, ?_⟩
      · rw [run_bind, ran]
      · rw [sink, Sink.write_append_of_not_takes takes]

theorem bind_error {failure : PromptFailure}
    (first : Yields action s flag ⟨.error failure, t, flag', text⟩) :
    Yields (action >>= next) s flag ⟨.error failure, t, flag', text⟩ where
  whole k takes := by rw [run_bind, first.whole k takes]
  cut k fails := by
    obtain ⟨d, ran, sink⟩ := first.cut k fails
    exact ⟨d, by rw [run_bind, ran], sink⟩

/-- An action without a text makes no difference to the sink. -/
theorem of_silent {e : Effect ε α} (silent : e.text = "")
    (ran : ∀ k, action.run.run ⟨s, k, flag⟩ = (e.outcome, ⟨e.session, k, e.flag⟩)) :
    Yields action s flag e where
  whole k _ := by
    rw [silent, Sink.put_empty]
    exact ran k
  cut k fails := by
    rw [silent] at fails
    exact absurd k.takes_empty fails

/-- An action that writes a text, whatever else it does, and fails unless the sink took it. -/
theorem of_write {action : PromptM ε Unit}
    (ran : ∀ k : Sink, ∃ u, (k.Takes text → u = t) ∧
      action.run.run ⟨s, k, flag⟩ =
        (unless (k.write text).1 do throw .sinkFull : PromptM ε Unit).run.run
          ⟨u, (k.write text).2, flag'⟩) :
    Yields action s flag ⟨.ok (), t, flag', text⟩ where
  whole k takes := by
    obtain ⟨u, same, ran⟩ := ran k
    rw [ran, same takes, Sink.write_of_takes takes]
    rfl
  cut k fails := by
    obtain ⟨u, -, ran⟩ := ran k
    refine ⟨⟨u, (k.write text).2, flag'⟩, ?_, rfl⟩
    rw [ran, Sink.write_of_not_takes fails]
    rfl

end Yields

theorem Yielding.bind (first : Yielding action) (second : ∀ a, Yielding (next a)) :
    Yielding (action >>= next) := by
  intro s flag
  obtain ⟨⟨outcome, t, flag', text⟩, yields⟩ := first s flag
  cases outcome with
  | error failure => exact ⟨_, yields.bind_error⟩
  | ok a =>
      obtain ⟨e, yields'⟩ := second a t flag'
      exact ⟨_, yields.bind yields'⟩

/-! ### The single actions -/

theorem yields_pure (a : α) (s : Session ε) (flag : StopFlag) :
    Yields (pure a) s flag ⟨.ok a, s, flag, ""⟩ := .of_silent rfl fun _ => rfl

theorem yields_throw (failure : PromptFailure) (s : Session ε) (flag : StopFlag) :
    Yields (throw failure : PromptM ε α) s flag ⟨.error failure, s, flag, ""⟩ :=
  .of_silent rfl fun _ => rfl

theorem yields_session (s : Session ε) (flag : StopFlag) :
    Yields session s flag ⟨.ok s, s, flag, ""⟩ := .of_silent rfl fun _ => rfl

theorem yields_setSession (s t : Session ε) (flag : StopFlag) :
    Yields (setSession t) s flag ⟨.ok (), t, flag, ""⟩ := .of_silent rfl fun _ => rfl

theorem yields_write (text : String) (s : Session ε) (flag : StopFlag) :
    Yields (write text) s flag ⟨.ok (), s, flag, text⟩ :=
  .of_write fun _ => ⟨s, fun _ => rfl, rfl⟩

/-- Lines as they are written. -/
def linesText (lines : List String) : String := String.join (lines.map (· ++ "\n"))

theorem yields_writeLines (lines : List String) (s : Session ε) (flag : StopFlag) :
    Yields (writeLines lines) s flag ⟨.ok (), s, flag, linesText lines⟩ := by
  induction lines with
  | nil => exact yields_pure () s flag
  | cons line rest ih =>
      have both : Yields (do writeLine line; writeLines rest) s flag _ :=
        (yields_write (line ++ "\n") s flag).bind ih
      rw [linesText, List.map_cons, String.join_cons]
      exact both

/-- Pending output is written as a piece; an empty one makes no difference to a sink. -/
theorem flushTo_eq (s : Session ε) (k : Sink) :
    flushTo s k =
      let (taken, sink) := k.write (shownPiece s.takeOutput.1)
      (taken, s.takeOutput.2, sink) := by
  simp only [flushTo, shownPiece]
  split
  · rw [Sink.write_empty]
  · rfl

theorem yields_flushOutput (s : Session ε) (flag : StopFlag) :
    Yields flushOutput s flag ⟨.ok (), s.takeOutput.2, flag, shownPiece s.takeOutput.1⟩ := by
  refine .of_write fun k => ⟨s.takeOutput.2, fun _ => rfl, ?_⟩
  have flushed := flushTo_eq s k
  change (unless (flushTo s k).1 do throw .sinkFull : PromptM ε Unit).run.run
    ⟨(flushTo s k).2.1, (flushTo s k).2.2, flag⟩ = _
  rw [flushed]

/-- The lines that tell why the guest stopped, as a text. -/
def reportText (s : Session ε) : String := String.join (s.stopLines.map (· ++ "\n"))

theorem yields_report (s : Session ε) (flag : StopFlag) :
    Yields report s flag ⟨.ok (), s, flag, reportText s⟩ := by
  have told : Yields (session >>= fun s : Session ε => writeLines s.stopLines) s flag _ :=
    (yields_session s flag).bind (yields_writeLines s.stopLines s flag)
  rw [String.empty_append] at told
  exact told

theorem yields_flush_report (s : Session ε) (flag : StopFlag) :
    Yields (flushOutput >>= fun _ => report) s flag ⟨.ok (), s.takeOutput.2, flag,
      shownPiece s.takeOutput.1 ++ reportText s.takeOutput.2⟩ := by
  have both : Yields (flushOutput >>= fun _ => report) s flag _ :=
    (yields_flushOutput s flag).bind (yields_report s.takeOutput.2 flag)
  exact both

/-! ### Runs of the guest -/

/-- Between turns a piece is shown behind those that were shown before. -/
theorem showBetweenTurns_of_takes {flag : StopFlag} {k : Sink} {pieces : List String}
    (takes : k.Takes (shown pieces)) :
    showBetweenTurns ⟨s, flag, k.write (shown pieces)⟩ =
      ⟨s.takeOutput.2, flag, k.write (shown (pieces ++ [s.takeOutput.1]))⟩ := by
  rw [shown_append, shown_singleton, Sink.write_append_of_takes takes, Sink.write_of_takes takes]
  simp only [showBetweenTurns, flushTo_eq, if_true]

variable [Engine ε]

/-- What is collected on the way is still there at the end. -/
theorem caller_prefix_of_collect {fuel : Nat} {r r' : Session.Run ε (List String)}
    {reason : Option StopReason}
    (ran : Session.runUntilStopped Session.collect fuel r = some (reason, r')) :
    r.caller <+: r'.caller :=
  Session.invariant_runUntilStopped (P := fun q => r.caller <+: q.caller) (fun _ early => early)
    (fun _ early => early.trans (List.prefix_append _ _)) List.prefix_rfl ran

theorem shown_prefix {pieces pieces' : List String} (early : pieces <+: pieces') :
    ∃ rest, shown pieces' = shown pieces ++ rest := by
  obtain ⟨later, rfl⟩ := early
  exact ⟨_, shown_append _ _⟩

/-- A run that shows its output between turns, to a sink that does not fail, goes as one that only
collects it. The induction is on the turns. -/
theorem runUntilStopped_showBetweenTurns {fuel : Nat} {s : Session ε} {flag : StopFlag} {k : Sink}
    {pieces : List String}
    (ended : ∀ reason r, Session.runUntilStopped Session.collect fuel ⟨s, flag, pieces⟩ =
      some (reason, r) → k.Takes (shown r.caller))
    (unended : Session.runUntilStopped Session.collect fuel ⟨s, flag, pieces⟩ = none →
      k.room = none) :
    Session.runUntilStopped showBetweenTurns fuel ⟨s, flag, k.write (shown pieces)⟩ =
      (Session.runUntilStopped Session.collect fuel ⟨s, flag, pieces⟩).map fun (reason, r) =>
        (reason, { r with caller := k.write (shown r.caller) }) := by
  induction fuel generalizing s flag pieces with
  | zero => rfl
  | succ fuel ih =>
      have takes : k.Takes (shown pieces) := by
        cases ran : Session.runUntilStopped Session.collect (fuel + 1) ⟨s, flag, pieces⟩ with
        | none => exact Sink.takes_of_unlimited (unended ran)
        | some after =>
            obtain ⟨text, split⟩ := shown_prefix (caller_prefix_of_collect ran)
            have all := ended after.1 after.2 ran
            rw [split] at all
            exact (Sink.takes_append.1 all).1
      rw [Session.runUntilStopped_succ] at ended unended ⊢
      rw [Session.runUntilStopped_succ]
      dsimp only at ended unended ⊢
      generalize (if flag.requested = true then s.stopRunning else s).runTurn = x
        at ended unended ⊢
      obtain ⟨turn, s'⟩ := x
      cases turn with
      | goesOn =>
          dsimp only at ended unended ⊢
          rw [showBetweenTurns_of_takes takes]
          exact ih ended unended
      | stopped | idle => rfl

/-- The part of a run that is at an end when the guest stops. -/
def showRun (fuel : Nat) : PromptM ε Unit := do
  let c ← get
  match Session.runUntilStopped showBetweenTurns fuel ⟨c.session, c.flag, true, c.sink⟩ with
  | none => throw .unfinished
  | some (_, r) =>
    set ({ session := r.session, flag := r.flag, sink := r.caller.2 } : Console ε)
    unless r.caller.1 do throw .sinkFull

theorem runAndReport_eq (fuel : Nat) :
    (runAndReport fuel : PromptM ε Unit) = (do showRun fuel; flushOutput; report) := by
  simp only [runAndReport, showRun, bind_assoc]
  congr 1
  funext c
  cases Session.runUntilStopped showBetweenTurns fuel ⟨c.session, c.flag, true, c.sink⟩ with
  | none => rfl
  | some after =>
      obtain ⟨_, session, flag, taken, sink⟩ := after
      cases taken <;> rfl

theorem run_showRun (fuel : Nat) (s : Session ε) (k : Sink) (flag : StopFlag) :
    (showRun fuel).run.run (⟨s, k, flag⟩ : Console ε) =
      match Session.runUntilStopped showBetweenTurns fuel ⟨s, flag, k.write (shown [])⟩ with
      | none => (.error .unfinished, ⟨s, k, flag⟩)
      | some (_, r) =>
        (unless r.caller.1 do throw .sinkFull : PromptM ε Unit).run.run
          ⟨r.session, r.caller.2, r.flag⟩ := by
  have nothing : shown [] = "" := rfl
  have got : (get : PromptM ε (Console ε)).run.run ⟨s, k, flag⟩ =
    (.ok ⟨s, k, flag⟩, ⟨s, k, flag⟩) := rfl
  rw [nothing, Sink.write_empty, showRun, run_bind, got]
  dsimp only
  cases Session.runUntilStopped showBetweenTurns fuel ⟨s, flag, true, k⟩ <;> rfl

/-- The effect of that part: to be cut off, or to show the output piece by piece. -/
def showEffect (fuel : Nat) (s : Session ε) (flag : StopFlag) : Effect ε Unit :=
  match Session.runUntilStopped Session.collect fuel ⟨s, flag, []⟩ with
  | none => ⟨.error .unfinished, s, flag, ""⟩
  | some (_, r) => ⟨.ok (), r.session, r.flag, shown r.caller⟩

theorem hasEffect_showRun (fuel : Nat) (s : Session ε) (flag : StopFlag) :
    HasEffect (showRun fuel) s flag (showEffect fuel s flag) := by
  rintro k ⟨takes, unlimited⟩
  rw [run_showRun]
  cases collected : Session.runUntilStopped Session.collect fuel ⟨s, flag, []⟩ with
  | none =>
      simp only [showEffect, collected] at unlimited ⊢
      have ended : ∀ reason r, Session.runUntilStopped Session.collect fuel ⟨s, flag, []⟩ =
          some (reason, r) → k.Takes (shown r.caller) := by simp [collected]
      rw [runUntilStopped_showBetweenTurns ended fun _ => unlimited trivial, collected,
        Sink.put_empty]
      rfl
  | some after =>
      obtain ⟨reason, r⟩ := after
      simp only [showEffect, collected] at takes ⊢
      have ended : ∀ reason r, Session.runUntilStopped Session.collect fuel ⟨s, flag, []⟩ =
          some (reason, r) → k.Takes (shown r.caller) := by simpa [collected] using takes
      rw [runUntilStopped_showBetweenTurns ended (by simp [collected]), collected, Option.map_some]
      dsimp only
      rw [Sink.write_of_takes takes]
      rfl

theorem effective_runAndReport (fuel : Nat) : Effective (runAndReport fuel : PromptM ε Unit) := by
  rw [runAndReport_eq]
  exact .bind (fun s flag => ⟨_, hasEffect_showRun fuel s flag⟩) fun _ s flag =>
    ⟨_, (yields_flush_report s flag).hasEffect⟩

/-! ### Every action has an effect -/

/-- The text of the prompt. -/
def promptText (s : Session ε) : String := s.location s.pc ++ "> "

theorem yields_showPrompt (s : Session ε) (flag : StopFlag) :
    Yields showPrompt s flag ⟨.ok (), s, flag, promptText s⟩ := by
  have told : Yields (session >>= fun s : Session ε => write (s.location s.pc ++ "> ")) s flag _ :=
    (yields_session s flag).bind (yields_write _ s flag)
  rw [String.empty_append] at told
  exact told

theorem compositional_effective (fuel : Nat) :
    Compositional fuel fun (α : Type) (action : PromptM ε α) => Effective action where
  pure a s flag := ⟨_, (yields_pure a s flag).hasEffect⟩
  throw failure s flag := ⟨_, (yields_throw failure s flag).hasEffect⟩
  bind first second := first.bind second
  session s flag := ⟨_, (yields_session s flag).hasEffect⟩
  setSession t s flag := ⟨_, (yields_setSession s t flag).hasEffect⟩
  write text s flag := ⟨_, (yields_write text s flag).hasEffect⟩
  flushOutput s flag := ⟨_, (yields_flushOutput s flag).hasEffect⟩
  runAndReport := effective_runAndReport fuel

/-- The prompt has an effect, whatever the lines are. -/
theorem effective_loop (fuel : Nat) (lines : List (List UInt8)) :
    Effective (loop fuel lines : PromptM ε Unit) := (compositional_effective fuel).loop lines

end GuestDebugger.Prompt
