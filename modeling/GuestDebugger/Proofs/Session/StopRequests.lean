import GuestDebugger.Proofs.Session.Operations

/-! # Requests to stop a run

A run looks at the stop flag before each turn, and its caller may set the flag between turns. So a
request that the caller makes in its `m`-th call is seen before the guest executes anything more,
and ends the run. If the guest stops on its own before, the run ends as it does without requests.
This holds of every engine, be it one that crashes, and of every caller, whatever else it does. -/

namespace GuestDebugger.Session

/-! ### How a turn ends -/

section Turns

variable {ε : Type} [Engine ε]

/-- What the state of a session tells after executing: the same as before if it goes on, and why if
it does not. -/
structure TellsState (s : Session ε) (x : Executed ε) : Prop where
  goesOn : x.1 = .ok true → x.2.state = s.state
  stops : x.1 = .ok false → ∃ reason, x.2.state = .stopped reason

omit [Engine ε] in
theorem tellsState_stop (s t : Session ε) (reason : StopReason) :
    TellsState s (.ok false, t.stop reason) where
  goesOn := nofun
  stops := fun _ => ⟨reason, rfl⟩

theorem tellsState_evaluateStop {s t : Session ε} (same : t.state = s.state) :
    TellsState s t.evaluateStop := by
  have goesOn : TellsState s (.ok true, t) := ⟨fun _ => same, nofun⟩
  simp only [evaluateStop]
  split
  · exact tellsState_stop _ _ _
  · split
    · split
      · exact goesOn
      · exact tellsState_stop _ _ _
    · exact goesOn

omit [Engine ε] in
theorem tellsState_halted (s t : Session ε) (halt : Halt) : TellsState s (t.halted halt) := by
  cases halt with
  | error e => exact tellsState_stop _ _ _
  | crash c => exact ⟨nofun, nofun⟩

theorem tellsState_runBatch {s t : Session ε} (same : t.state = s.state) :
    TellsState s t.runBatch := by
  simp only [runBatch]
  split
  · exact tellsState_halted _ _ _
  · exact tellsState_evaluateStop same

theorem tellsState_stepMany (s : Session ε) : TellsState s s.stepMany := by
  cases ended : s.exitCode with
  | some code =>
      rw [stepMany_of_exited ended]
      exact tellsState_stop _ _ _
  | none =>
      cases active : s.breakpoints.isActive s.pc with
      | false =>
          rw [stepMany_of_inactive ended active]
          exact tellsState_runBatch rfl
      | true =>
          rw [stepMany_of_active ended active]
          split
          · exact tellsState_halted _ _ _
          · simp only [runRest]
            split
            · exact tellsState_evaluateStop rfl
            · exact tellsState_runBatch rfl

omit [Engine ε] in
theorem stoppedTurn_of_state {s : Session ε} {reason : StopReason}
    (state : s.state = .stopped reason) : s.stoppedTurn = .stopped reason := by
  rw [stoppedTurn, state]
  rfl

/-- What a turn tells: if the guest runs on, the state is the same; if not, the guest is not
running, and the state tells of the stop that the turn tells of. -/
structure TurnTells (s : Session ε) (x : Turn × Session ε) : Prop where
  goesOn : x.1 = .goesOn → x.2.state = s.state
  still : x.1 ≠ .goesOn → x.2.state.isRunning = false
  reason : ∀ r, x.1 = .stopped r → x.2.state.stopReason? = some r

omit [Engine ε] in
theorem turnTells_of_stopped {s t : Session ε} {reason : StopReason}
    (state : t.state = .stopped reason) : TurnTells s (t.stoppedTurn, t) := by
  rw [stoppedTurn_of_state state]
  refine ⟨nofun, fun _ => ?_, ?_⟩
  · rw [state]
    rfl
  · rintro r ⟨⟩
    rw [state]
    rfl

theorem turnTells_runTurn (s : Session ε) : TurnTells s s.runTurn := by
  have told := tellsState_stepMany s
  rw [runTurn]
  cases running : s.state.isRunning with
  | false =>
      refine ⟨fun goesOn => ?_, fun _ => running, fun reason stops => ?_⟩
      · cases goesOn
      · cases stops
  | true =>
      simp only [if_true]
      generalize s.stepMany = x at told ⊢
      obtain ⟨answer, t⟩ := x
      cases answer with
      | error c => exact turnTells_of_stopped (t := t.stop (.fault (.crash c))) rfl
      | ok goesOn =>
          cases goesOn with
          | true =>
              refine ⟨fun _ => told.goesOn rfl, fun stops => absurd rfl stops, ?_⟩
              intro reason stops
              cases stops
          | false =>
              obtain ⟨reason, state⟩ := told.stops rfl
              exact turnTells_of_stopped state

end Turns

/-! ### A caller that requests a stop -/

section Requests

variable {ε σ : Type} [Engine ε] {act : Session ε × σ → Session ε × σ}

/-- A caller that requests a stop in its `m`-th call, or never. It counts its calls, and does to the
session and to a state of its own what it likes. -/
def requestingAt (m : Option Nat) (act : Session ε × σ → Session ε × σ) (r : Run ε (Nat × σ)) :
    Run ε (Nat × σ) :=
  let calls := r.caller.1 + 1
  let (session, own) := act (r.session, r.caller.2)
  { session, flag := if m = some calls then r.flag.request else r.flag, caller := (calls, own) }

/-- A run of this caller after some of its calls. A request waits to be seen if the caller made it
in the last one, or if it is to be made before the first. -/
def requestedAt (m : Option Nat) (calls : Nat) (p : Session ε × σ) : Run ε (Nat × σ) :=
  { session := p.1, flag := ⟨decide (m = some calls)⟩, caller := (calls, p.2) }

/-- Runs a session until it stops, with this caller. -/
def runRequesting (m : Option Nat) (act : Session ε × σ → Session ε × σ) (p : Session ε × σ)
    (fuel : Nat) : Option (Option StopReason × Run ε (Nat × σ)) :=
  runUntilStopped (requestingAt m act) fuel (requestedAt m 0 p)

/-- A run of this caller that has ended after some of its calls. It tells the reason in the state,
and no request waits to be seen. -/
def endedAfter (calls : Nat) (p : Session ε × σ) : Option (Option StopReason × Run ε (Nat × σ)) :=
  some (p.1.state.stopReason?, { session := p.1, flag := ⟨false⟩, caller := (calls, p.2) })

/-- A run with this caller has ended if more than `turns` turns are allowed, always in the same way:
after so many calls and with `q` left. -/
def EndsIn (m : Option Nat) (act : Session ε × σ → Session ε × σ) (p : Session ε × σ)
    (turns calls : Nat) (q : Session ε × σ) : Prop :=
  ∀ fuel > turns, runRequesting m act p fuel = endedAfter calls q

/-- Turns after each of which the guest runs on and the caller acts. -/
inductive TurnsOn (act : Session ε × σ → Session ε × σ) :
    Nat → Session ε × σ → Session ε × σ → Prop
  | none (p : Session ε × σ) : TurnsOn act 0 p p
  | more {n : Nat} {p q : Session ε × σ} {s : Session ε} (turn : p.1.runTurn = (.goesOn, s))
      (rest : TurnsOn act n (act (s, p.2)) q) : TurnsOn act (n + 1) p q

omit [Engine ε] in
theorem requestingAt_eq (m : Option Nat) (calls : Nat) (s : Session ε) (own : σ) :
    requestingAt m act ⟨s, {}, (calls, own)⟩ = requestedAt m (calls + 1) (act (s, own)) := by
  simp only [requestingAt, requestedAt]
  split
  · rename_i last
    rw [decide_eq_true last]
    rfl
  · rename_i further
    rw [decide_eq_false further]

/-- If nothing is requested, a turn that goes on is followed by a call. -/
theorem runUntilStopped_of_goesOn {m : Option Nat} {calls : Nat} {p : Session ε × σ}
    {s : Session ε} (turn : p.1.runTurn = (.goesOn, s)) (quiet : m ≠ some calls) (fuel : Nat) :
    runUntilStopped (requestingAt m act) (fuel + 1) (requestedAt m calls p) =
      runUntilStopped (requestingAt m act) fuel (requestedAt m (calls + 1) (act (s, p.2))) := by
  have clear : decide (m = some calls) = false := decide_eq_false quiet
  rw [runUntilStopped_succ]
  simp only [requestedAt, clear, Bool.false_eq_true, if_false, turn]
  rw [requestingAt_eq]
  rfl

/-- If nothing is requested meanwhile, a run gets past turns that go on. -/
theorem runUntilStopped_of_turnsOn {m : Option Nat} {k calls : Nat} {p q : Session ε × σ}
    (turns : TurnsOn act k p q) (quiet : ∀ i < k, m ≠ some (calls + i)) (fuel : Nat) :
    runUntilStopped (requestingAt m act) (fuel + k) (requestedAt m calls p) =
      runUntilStopped (requestingAt m act) fuel (requestedAt m (calls + k) q) := by
  induction turns generalizing calls with
  | none => rfl
  | @more n p q s turn _ ih =>
      have later : ∀ i < n, m ≠ some (calls + 1 + i) := by
        intro i less
        rw [Nat.add_right_comm]
        exact quiet (i + 1) (Nat.succ_lt_succ less)
      calc runUntilStopped (requestingAt m act) (fuel + n + 1) (requestedAt m calls p)
          _ = runUntilStopped (requestingAt m act) (fuel + n)
                (requestedAt m (calls + 1) (act (s, p.2))) :=
              runUntilStopped_of_goesOn turn (quiet 0 n.succ_pos) (fuel + n)
          _ = runUntilStopped (requestingAt m act) fuel (requestedAt m (calls + 1 + n) q) :=
              ih later
          _ = runUntilStopped (requestingAt m act) fuel (requestedAt m (calls + (n + 1)) q) := by
              rw [Nat.add_right_comm, Nat.add_assoc]

theorem runRequesting_of_turnsOn {m : Option Nat} {k fuel : Nat} {p q : Session ε × σ}
    (turns : TurnsOn act k p q) (quiet : ∀ i < k, m ≠ some i) (enough : k < fuel) :
    ∃ rest, runRequesting m act p fuel =
      runUntilStopped (requestingAt m act) (rest + 1) (requestedAt m k q) := by
  obtain ⟨rest, rfl⟩ := Nat.exists_eq_add_of_lt enough
  refine ⟨rest, ?_⟩
  have quiet' : ∀ i < k, m ≠ some (0 + i) := by simpa using quiet
  calc runUntilStopped (requestingAt m act) (k + rest + 1) (requestedAt m 0 p)
      _ = runUntilStopped (requestingAt m act) (rest + 1 + k) (requestedAt m 0 p) := by
          rw [Nat.add_assoc, Nat.add_comm]
      _ = runUntilStopped (requestingAt m act) (rest + 1) (requestedAt m (0 + k) q) :=
          runUntilStopped_of_turnsOn turns quiet' (rest + 1)
      _ = runUntilStopped (requestingAt m act) (rest + 1) (requestedAt m k q) := by
          rw [Nat.zero_add]

/-- A request that waits to be seen ends the run before anything more is executed. -/
theorem endsIn_of_requested {m : Nat} {p q : Session ε × σ} (turns : TurnsOn act m p q) :
    EndsIn (some m) act p m m (q.1.stopRunning, q.2) := by
  intro fuel enough
  have quiet : ∀ i < m, some m ≠ some i := fun i less eq => Nat.ne_of_gt less (Option.some.inj eq)
  obtain ⟨rest, eq⟩ := runRequesting_of_turnsOn turns quiet enough
  have turn := runTurn_of_not_running (state_stopRunning_ne q.1)
  rw [eq, runUntilStopped_succ]
  simp only [requestedAt, decide_true, if_true, turn]
  rfl

/-- A turn after which the guest does not run on ends the run if nothing was requested. -/
theorem endsIn_of_stops {m : Option Nat} {k n : Nat} {p q : Session ε × σ}
    (turns : TurnsOn act k p q) (stops : q.1.runTurn.1 ≠ .goesOn) (quiet : ∀ i ≤ k, m ≠ some i)
    (early : k ≤ n) : EndsIn m act p n k (q.1.runTurn.2, q.2) := by
  intro fuel enough
  obtain ⟨rest, eq⟩ := runRequesting_of_turnsOn turns
    (fun i less => quiet i (Nat.le_of_lt less)) (Nat.lt_of_le_of_lt early enough)
  have clear : decide (m = some k) = false := decide_eq_false (quiet k (Nat.le_refl k))
  have told := (turnTells_runTurn q.1).reason
  rw [eq, runUntilStopped_succ]
  simp only [requestedAt, clear, Bool.false_eq_true, if_false]
  generalize q.1.runTurn = x at stops told ⊢
  obtain ⟨turn, t⟩ := x
  cases turn with
  | goesOn => exact absurd rfl stops
  | idle => rfl
  | stopped reason => simp only [endedAfter, told reason rfl]

theorem endsIn_of_stops_early {m k : Nat} {p q : Session ε × σ} (turns : TurnsOn act k p q)
    (stops : q.1.runTurn.1 ≠ .goesOn) (early : k < m) :
    EndsIn (some m) act p m k (q.1.runTurn.2, q.2) := by
  have quiet : ∀ i ≤ k, some m ≠ some i := by
    intro i le eq
    exact Nat.ne_of_gt (Nat.lt_of_le_of_lt le early) (Option.some.inj eq)
  exact endsIn_of_stops turns stops quiet (Nat.le_of_lt early)

/-- Either so many turns go on, or there is a first one that does not. -/
theorem turnsOn_or_stops (act : Session ε × σ → Session ε × σ) (m : Nat) (p : Session ε × σ) :
    (∃ q, TurnsOn act m p q) ∨
      ∃ k < m, ∃ q, TurnsOn act k p q ∧ q.1.runTurn.1 ≠ .goesOn := by
  induction m generalizing p with
  | zero => exact .inl ⟨p, .none p⟩
  | succ m ih =>
      by_cases turn : p.1.runTurn.1 = .goesOn
      · have first : p.1.runTurn = (.goesOn, p.1.runTurn.2) := Prod.ext turn rfl
        rcases ih (act (p.1.runTurn.2, p.2)) with ⟨q, turns⟩ | ⟨k, less, q, turns, stops⟩
        · exact .inl ⟨q, .more first turns⟩
        · exact .inr ⟨k + 1, Nat.succ_lt_succ less, q, .more first turns, stops⟩
      · exact .inr ⟨0, m.succ_pos, p, .none p, turn⟩

/-- If the caller leaves the state alone, the guest is as it was while turns go on. -/
theorem TurnsOn.state {m : Nat} {p q : Session ε × σ} (turns : TurnsOn act m p q)
    (leaves : ∀ p, (act p).1.state = p.1.state) : q.1.state = p.1.state := by
  induction turns with
  | none => rfl
  | @more n p q s turn _ ih =>
      have told := (turnTells_runTurn p.1).goesOn
      rw [turn] at told
      exact ih.trans ((leaves _).trans (told rfl))

/-- A run whose caller requests a stop in its `m`-th call, or before the run if `m` is zero, always
ends, after at most `m` calls. Its answer is the reason in the state it leaves, the guest is not
running, and no request waits to be seen. If `m` turns go on, nothing is executed after the request:
a guest that is running then is paused, and any other is left as it is. It is running if it was so
before the run and the caller leaves the state alone. If fewer turns go on, the run ends as it does
without a request. If the guest is not running in the first place, nothing happens. -/
theorem run_obeys_request (m : Nat) (act : Session ε × σ → Session ε × σ) (p : Session ε × σ) :
    (∃ reason r, (∀ fuel > m, runRequesting (some m) act p fuel = some (reason, r)) ∧
        r.caller.1 ≤ m ∧ reason = r.session.state.stopReason? ∧
        r.session.state.isRunning = false ∧ r.flag.requested = false) ∧
      (∀ q, TurnsOn act m p q →
        (q.1.state = .running → EndsIn (some m) act p m m (q.1.stop .paused, q.2)) ∧
          (q.1.state ≠ .running → EndsIn (some m) act p m m q) ∧
          ((∀ p, (act p).1.state = p.1.state) → q.1.state = p.1.state)) ∧
      ((∀ q, ¬TurnsOn act m p q) → ∃ calls < m, ∃ q, TurnsOn act calls p q ∧
        q.1.runTurn.1 ≠ .goesOn ∧ EndsIn (some m) act p m calls (q.1.runTurn.2, q.2) ∧
        EndsIn none act p m calls (q.1.runTurn.2, q.2)) ∧
      (p.1.state ≠ .running → EndsIn (some m) act p m 0 p) := by
  refine ⟨?_, ?_, ?_, ?_⟩
  · rcases turnsOn_or_stops act m p with ⟨q, turns⟩ | ⟨k, less, q, turns, stops⟩
    · exact ⟨_, _, endsIn_of_requested turns, Nat.le_refl m, rfl, isRunning_stopRunning q.1, rfl⟩
    · exact ⟨_, _, endsIn_of_stops_early turns stops less, Nat.le_of_lt less, rfl,
        (turnTells_runTurn q.1).still stops, rfl⟩
  · intro q turns
    have ends := endsIn_of_requested turns
    refine ⟨?_, ?_, turns.state⟩
    · intro running
      rwa [stopRunning_of_running running] at ends
    · intro still
      rwa [stopRunning_of_not_running still] at ends
  · intro never
    rcases turnsOn_or_stops act m p with ⟨q, turns⟩ | ⟨k, less, q, turns, stops⟩
    · exact absurd turns (never q)
    · exact ⟨k, less, q, turns, stops, endsIn_of_stops_early turns stops less,
        endsIn_of_stops turns stops (fun _ _ => nofun) (Nat.le_of_lt less)⟩
  · intro still
    cases m with
    | zero =>
        have here : TurnsOn act 0 p p := .none p
        have ends := endsIn_of_requested here
        rwa [stopRunning_of_not_running still] at ends
    | succ m =>
        have turn := runTurn_of_not_running still
        have stops : p.1.runTurn.1 ≠ .goesOn := by
          rw [turn]
          nofun
        have here : TurnsOn act 0 p p := .none p
        have ends := endsIn_of_stops_early here stops m.succ_pos
        rwa [turn] at ends

/-- A guest that is paused after a turn, one that its caller stops in the same call, one that faults
in the turn, and one that is not running. -/
theorem run_obeys_request_in_first_call :
    let start := create (Machine.create (.ofOps [(0x10, .nop), (0x11, .jump 0x10)]) 16)
      { initialBatchSize := 1 } {}
    let s := start.startRunning
    let t := s.runTurn.2
    let take := fun p : Session Machine × String => (p.1.takeOutput.2, p.2 ++ p.1.takeOutput.1)
    let stop := fun p : Session Machine × String => (p.1.stopRunning, p.2)
    let broken := (create (Machine.create (.ofOps []) 16) {} {}).startRunning
    (EndsIn (some 1) take (s, "") 1 1 (t.takeOutput.2.stop .paused, "") ∧
        t.takeOutput.2.state = s.state) ∧
      EndsIn (some 1) stop (s, "") 1 1 (t.stopRunning, "") ∧
      (∃ calls < 1, ∃ q, TurnsOn take calls (broken, "") q ∧ q.1.runTurn.1 ≠ .goesOn ∧
        EndsIn (some 1) take (broken, "") 1 calls (q.1.runTurn.2, q.2) ∧
        EndsIn none take (broken, "") 1 calls (q.1.runTurn.2, q.2)) ∧
      EndsIn (some 1) take (start, "") 1 0 (start, "") := by
  intro start s t take stop broken
  have turn : s.runTurn = (.goesOn, t) := Prod.ext rfl rfl
  have fault : ∀ q, ¬TurnsOn take 1 (broken, "") q := by
    rintro q (_ | ⟨turn, -⟩)
    cases turn
  obtain ⟨paused, -, kept⟩ := (run_obeys_request 1 take (s, "")).2.1 _ (.more turn (.none _))
  obtain ⟨-, stopped, -⟩ := (run_obeys_request 1 stop (s, "")).2.1 _ (.more turn (.none _))
  exact ⟨⟨paused rfl, kept fun _ => rfl⟩, stopped nofun,
    (run_obeys_request 1 take (broken, "")).2.2.1 fault,
    (run_obeys_request 1 take (start, "")).2.2.2 nofun⟩

end Requests

end GuestDebugger.Session
