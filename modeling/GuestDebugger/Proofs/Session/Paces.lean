import GuestDebugger.Proofs.Session.Faults

/-! # Runs at another pace

How large batches are, how they grow and what the clock tells decides where turns end. What a guest
does that does not ask for the time hangs on none of this. So a run at any pace gets where single
steps get, and the output that was taken between its turns adds up to what single steps leave.

## Implementation notes

Turns are compared with single steps on a clock that does not move. Every turn is first repeated on
such a clock; from there its steps are carried over to the session that was stepped so far, in which
all output still waits. Two runs then end where the same single steps end, since steps that go on
and a step that does not are told apart. -/

namespace GuestDebugger

namespace Session

/-! ### Sessions that do the same -/

/-- A session that has the same before it as another one, behind a text that it wrote before. Its
clock, its batches and what was counted may be others. -/
structure Follows (text : String) (s t : Session Machine) : Prop where
  engine : t.engine = s.engine
  host : t.host = s.host.behind text t.host.clock
  breakpoints : t.breakpoints = s.breakpoints
  state : t.state = s.state
  labels : t.labels = s.labels

/-- The same answer, and sessions of which the second follows the first. -/
def FollowsWith {ρ : Type} (text : String) (x y : ρ × Session Machine) : Prop :=
  y.1 = x.1 ∧ Follows text x.2 y.2

namespace Follows

variable {text : String} {s t u : Session Machine}

/-- Nothing was written before, and only the clock is another one. -/
theorem of_same (engine : t.engine = s.engine)
    (host : t.host = { s.host with clock := t.host.clock })
    (breakpoints : t.breakpoints = s.breakpoints) (state : t.state = s.state)
    (labels : t.labels = s.labels) : Follows "" s t := by
  refine ⟨engine, ?_, breakpoints, state, labels⟩
  rw [Host.behind, String.empty_append]
  exact host

theorem symm (follows : Follows "" s t) : Follows "" t s := by
  refine .of_same follows.engine.symm ?_ follows.breakpoints.symm follows.state.symm
    follows.labels.symm
  rw [follows.host, Host.behind, String.empty_append]

theorem trans {before : String} (first : Follows text s t) (second : Follows before t u) :
    Follows (before ++ text) s u where
  engine := second.engine.trans first.engine
  host := by
    rw [second.host, first.host]
    simp only [Host.behind, String.append_assoc]
  breakpoints := second.breakpoints.trans first.breakpoints
  state := second.state.trans first.state
  labels := second.labels.trans first.labels

theorem exitCode (follows : Follows text s t) : t.exitCode = s.exitCode := by
  rw [Session.exitCode, follows.host]
  rfl

theorem display (follows : Follows text s t) : t.host.display = s.host.display := by
  rw [follows.host]
  rfl

theorem pc (follows : Follows text s t) : t.pc = s.pc := by
  rw [Session.pc, follows.engine]
  rfl

theorem stop (follows : Follows text s t) (reason : StopReason) :
    Follows text (s.stop reason) (t.stop reason) :=
  ⟨follows.engine, follows.host, follows.breakpoints, rfl, follows.labels⟩

theorem removeBreakpoint (follows : Follows text s t) (a : Address) :
    Follows text (s.removeBreakpoint a) (t.removeBreakpoint a) where
  engine := by
    simp only [Session.removeBreakpoint, withBreakpoints, follows.engine, follows.breakpoints]
  host := follows.host
  breakpoints := by
    simp only [Session.removeBreakpoint, withBreakpoints, follows.engine, follows.breakpoints]
  state := follows.state
  labels := follows.labels

theorem startRunning (follows : Follows text s t) :
    Follows text s.startRunning t.startRunning := by
  simp only [Session.startRunning, follows.exitCode]
  cases s.exitCode with
  | some code => exact follows.stop _
  | none => exact ⟨follows.engine, follows.host, follows.breakpoints, rfl, follows.labels⟩

theorem stopRunning (follows : Follows text s t) : Follows text s.stopRunning t.stopRunning := by
  simp only [Session.stopRunning, follows.state]
  split
  · exact follows.stop _
  · exact follows

/-- Taking the output moves it from what waits to what was written before. -/
theorem takeOutput (follows : Follows text s t) :
    Follows (text ++ s.host.output) s.takeOutput.2 t where
  engine := follows.engine
  host := by
    rw [follows.host]
    simp only [Session.takeOutput, Host.takeOutput, Host.behind, String.append_empty]
  breakpoints := follows.breakpoints
  state := follows.state
  labels := follows.labels

theorem of_agrees (agrees : Agrees s t) : Follows "" s t :=
  .of_same agrees.engine.symm (by rw [agrees.host]) agrees.breakpoints.symm agrees.state.symm
    agrees.labels.symm

/-! ### Executing -/

theorem evaluateStop (follows : Follows text s t) :
    FollowsWith text s.evaluateStop t.evaluateStop := by
  simp only [Session.evaluateStop, follows.exitCode, follows.breakpoints, follows.pc]
  cases s.exitCode with
  | some code => exact ⟨rfl, follows.stop _⟩
  | none =>
      cases s.breakpoints.get? s.pc with
      | none => exact ⟨rfl, follows⟩
      | some b =>
          dsimp only
          cases b.disabled with
          | true => exact ⟨rfl, follows⟩
          | false =>
              cases b.isTransient with
              | true => exact ⟨rfl, (follows.removeBreakpoint s.pc).stop _⟩
              | false => exact ⟨rfl, follows.stop _⟩

/-- What executing leaves behind is the same, but for the text and the clock. -/
theorem afterRun {α : Type} (follows : Follows text s t) (ran : Ran Machine α) (clock : Clock) :
    Follows text (s.afterRun ran) (t.afterRun (ran.mapHost (·.behind text clock))) :=
  ⟨rfl, rfl, follows.breakpoints, follows.state, follows.labels⟩

theorem countInstructions (follows : Follows text s t) (n : Nat) :
    Follows text (s.countInstructions n) (t.countInstructions n) :=
  ⟨follows.engine, follows.host, follows.breakpoints, follows.state, follows.labels⟩

theorem halted (follows : Follows text s t) (halt : Halt) :
    FollowsWith text (s.halted halt) (t.halted halt) := by
  cases halt with
  | error e => exact ⟨rfl, follows.stop _⟩
  | crash c => exact ⟨rfl, follows⟩

theorem enterStep (follows : Follows text s t) : Follows text s.enterStep t.enterStep := by
  simp only [Session.enterStep, follows.state]
  split
  · exact follows
  · exact ⟨follows.engine, follows.host, follows.breakpoints, rfl, follows.labels⟩

theorem engine_step (follows : Follows text s t) (untimed : s.engine.listing.Untimed) :
    Engine.step t.engine t.host =
      (Engine.step s.engine s.host).mapHost (·.behind text t.host.clock) := by
  have same := s.engine.step_behind s.host (untimed.get?_ne _) text t.host.clock
  rw [← follows.host, ← follows.engine] at same
  rw [← follows.engine]
  exact same

theorem step (follows : Follows text s t) (untimed : s.engine.listing.Untimed) :
    FollowsWith text s.step t.step := by
  cases ended : s.exitCode with
  | some code =>
      rw [step_of_exited ended, step_of_exited (follows.exitCode.trans ended)]
      exact ⟨rfl, follows.stop _⟩
  | none =>
      rw [step_of_alive ended, step_of_alive (follows.exitCode.trans ended),
        follows.engine_step untimed]
      have after := follows.enterStep.afterRun (Engine.step s.engine s.host) t.host.clock
      generalize Engine.step s.engine s.host = ran at after
      obtain ⟨m, h, outcome⟩ := ran
      cases outcome with
      | error halt => exact after.halted halt
      | ok =>
          exact (after.countInstructions 1).evaluateStop

/-- Reading the clock gives another time to each, and adapts their batches in other ways. -/
theorem readClock (follows : Follows text s t) :
    Follows text { s with host := s.host.readClock.2 } { t with host := t.host.readClock.2 } where
  engine := follows.engine
  host := by
    have read : ∀ h : Host, h.readClock.2 = { h with clock := h.clock.read.2 } := fun _ => rfl
    simp only [read]
    rw [follows.host]
    rfl
  breakpoints := follows.breakpoints
  state := follows.state
  labels := follows.labels

theorem adapt (follows : Follows text s t) (executed : UInt32) (elapsed elapsed' : Float) :
    Follows text (s.adapt executed elapsed) (t.adapt executed elapsed') :=
  ⟨follows.engine, follows.host, follows.breakpoints, follows.state, follows.labels⟩

theorem runBatch (follows : Follows text s t) (untimed : s.engine.listing.Untimed)
    (size : t.batchSize = s.batchSize) : FollowsWith text s.runBatch t.runBatch := by
  have read : t.host.readClock.2 = s.host.readClock.2.behind text t.host.readClock.2.clock := by
    rw [follows.host]
    rfl
  have same := Machine.stepMany_behind untimed s.batchSize s.host.readClock.2 text
    t.host.readClock.2.clock
  have ran : Engine.stepMany t.engine t.host.readClock.2 t.batchSize =
      (Engine.stepMany s.engine s.host.readClock.2 s.batchSize).mapHost
        (·.behind text t.host.readClock.2.clock) := by
    rw [read, follows.engine, size]
    exact same
  simp only [Session.runBatch, ran]
  generalize Engine.stepMany s.engine s.host.readClock.2 s.batchSize = ran
  obtain ⟨m, h, outcome⟩ := ran
  cases outcome with
  | error halt => exact (follows.afterRun ⟨m, h, .error halt⟩ _).halted halt
  | ok executed =>
      have after := (follows.afterRun ⟨m, h, .ok executed⟩ t.host.readClock.2.clock).readClock
      exact ((after.countInstructions executed.toNat).adapt executed _ _).evaluateStop

theorem stepMany (follows : Follows text s t) (untimed : s.engine.listing.Untimed)
    (size : t.batchSize = s.batchSize) : FollowsWith text s.stepMany t.stepMany := by
  cases ended : s.exitCode with
  | some code =>
      rw [stepMany_of_exited ended, stepMany_of_exited (follows.exitCode.trans ended)]
      exact ⟨rfl, follows.stop _⟩
  | none =>
      have alive := follows.exitCode.trans ended
      have same : t.breakpoints.isActive t.pc = s.breakpoints.isActive s.pc := by
        rw [follows.breakpoints, follows.pc]
      cases active : s.breakpoints.isActive s.pc with
      | false =>
          rw [stepMany_of_inactive ended active, stepMany_of_inactive alive (same.trans active)]
          exact follows.runBatch untimed size
      | true =>
          rw [stepMany_of_active ended active, stepMany_of_active alive (same.trans active),
            follows.engine_step untimed]
          have after := follows.afterRun (Engine.step s.engine s.host) t.host.clock
          have listing : (Engine.step s.engine s.host).engine.listing = s.engine.listing :=
            s.engine.listing_step s.host
          generalize Engine.step s.engine s.host = ran at after listing
          obtain ⟨m, h, outcome⟩ := ran
          cases outcome with
          | error halt => exact after.halted halt
          | ok =>
              have counted := after.countInstructions 1
              have exitCode := counted.exitCode
              simp only [runRest]
              rw [exitCode]
              split
              · exact counted.evaluateStop
              · exact counted.runBatch (listing ▸ untimed) size

theorem runTurn (follows : Follows text s t) (untimed : s.engine.listing.Untimed)
    (size : t.batchSize = s.batchSize) : FollowsWith text s.runTurn t.runTurn := by
  by_cases running : s.state = .running
  · obtain ⟨outcome, after⟩ := follows.stepMany untimed size
    rcases runTurn_eq running with ⟨batch, turn⟩ | ⟨batch, turn⟩ <;>
      rcases runTurn_eq (follows.state.trans running) with ⟨batch', turn'⟩ | ⟨batch', turn'⟩ <;>
      rw [batch, batch'] at outcome after
    · exact ⟨turn'.trans turn.symm, after⟩
    · cases outcome
    · cases outcome
    · refine ⟨?_, after⟩
      rw [turn, turn', stoppedTurn, stoppedTurn, after.state]
  · rw [runTurn_of_not_running running,
      runTurn_of_not_running fun eq => running (follows.state.symm.trans eq)]
    exact ⟨rfl, follows⟩

end Follows

/-- Judging leaves the program alone. -/
theorem Judged.listing {s : Session Machine} {x : Executed Machine} (judged : Judged s x) :
    x.2.engine.listing = s.engine.listing := by
  cases judged with
  | ended => rfl
  | failed _ progress => exact progress.frame.listing
  | @evaluated u _ progress =>
      have evaluated := evaluated_evaluateStop u
      generalize u.evaluateStop = x at evaluated ⊢
      cases evaluated with
      | exited => exact progress.frame.listing
      | goesOn => exact progress.frame.listing
      | breakpoint =>
          dsimp only
          split
          · have same : (u.removeBreakpoint u.pc).engine.listing = u.engine.listing := by
              rw [(Held.removeBreakpoint u u.pc).engine]
              rfl
            exact same.trans progress.frame.listing
          · exact progress.frame.listing

/-- Steps are carried over to a session that follows. -/
theorem Follows.repeats {text : String} {s t u : Session Machine} {n : Nat}
    {r : Except Crash Bool} (follows : Follows text s t) (untimed : s.engine.listing.Untimed)
    (steps : Repeats Session.step (.ok true) n s r u) :
    ∃ v, Repeats Session.step (.ok true) n t r v ∧ Follows text u v := by
  induction steps generalizing t with
  | @once s u r last =>
      obtain ⟨outcome, after⟩ := follows.step untimed
      rw [last] at outcome after
      exact ⟨t.step.2, .once (Prod.ext outcome rfl), after⟩
  | @again n s s' u r first _ ih =>
      obtain ⟨outcome, after⟩ := follows.step untimed
      have listing := (judged_step s).listing
      rw [first] at outcome after listing
      obtain ⟨v, rest, after⟩ := ih after (listing ▸ untimed)
      have goesOn : t.step = (.ok true, t.step.2) := Prod.ext outcome rfl
      exact ⟨v, .again goesOn rest, after⟩

end Session

/-- Calls that go on and one that does not are told apart, so repeated calls end at one place. -/
theorem Repeats.unique {σ ρ : Type} {call : σ → ρ × σ} {more r r' : ρ} {s t t' : σ} {n n' : Nat}
    (first : Repeats call more n s r t) (second : Repeats call more n' s r' t') (last : r ≠ more)
    (last' : r' ≠ more) : n = n' ∧ r = r' ∧ t = t' := by
  induction first generalizing n' with
  | once one =>
      cases second with
      | once one' =>
          cases one.symm.trans one'
          exact ⟨rfl, rfl, rfl⟩
      | again goesOn =>
          cases one.symm.trans goesOn
          exact absurd rfl last
  | again goesOn _ ih =>
      cases second with
      | once one' =>
          cases goesOn.symm.trans one'
          exact absurd rfl last'
      | again goesOn' rest =>
          cases goesOn.symm.trans goesOn'
          obtain ⟨rfl, same⟩ := ih rest last
          exact ⟨rfl, same⟩

namespace Session

/-! ### Runs whose output is taken between turns -/

variable {ε : Type} [Engine ε]

/-- Takes the output and puts it behind what was taken before. -/
def collect (r : Run ε (List String)) : Run ε (List String) :=
  { r with session := r.session.takeOutput.2, caller := r.caller ++ [r.session.takeOutput.1] }

theorem Follows.collect {r : Run Machine (List String)} {v : Session Machine}
    (follows : Follows (String.join r.caller) r.session v) :
    Follows (String.join (collect r).caller) (collect r).session v := by
  have joined : String.join (Session.collect r).caller =
      String.join r.caller ++ r.session.host.output := by
    rw [Session.collect, String.join_append, String.join_cons, String.join_nil,
      String.append_empty]
    rfl
  rw [joined]
  exact follows.takeOutput

/-- Runs until the guest stops. Gives what each of the turns left to take, and the session after
it was taken. -/
def runInPieces (fuel : Nat) (s : Session ε) (flag : StopFlag) :
    Option (List String × Session ε) :=
  (runUntilStopped collect fuel ⟨s, flag, []⟩).map fun (_, r) =>
    ((collect r).caller, (collect r).session)

theorem output_of_runInPieces {fuel : Nat} {s u : Session ε} {flag : StopFlag}
    {pieces : List String} (ran : runInPieces fuel s flag = some (pieces, u)) :
    u.host.output = "" := by
  simp only [runInPieces, Option.map_eq_some_iff, Prod.exists, Prod.mk.injEq] at ran
  obtain ⟨_, r, _, _, rfl⟩ := ran
  rfl

/-- A running session in which batches get anywhere, of a guest that does not ask for the time. -/
structure Steady (s : Session Machine) : Prop where
  ready : (s.withClock {}).Ready
  untimed : s.engine.listing.Untimed

namespace Steady

variable {text : String} {s t : Session Machine}

theorem running (steady : s.Steady) : s.state = .running := steady.ready.running

/-- A turn by single steps of the session that was stepped so far. -/
theorem turnBySteps (steady : s.Steady) (follows : Follows text s t) :
    ∃ k goesOn v, Repeats Session.step (.ok true) k t (.ok goesOn) v ∧
      Follows text s.runTurn.2 v ∧ (goesOn = true ↔ s.runTurn.1 = .goesOn) := by
  have stilled : Follows "" s (s.withClock {}) := .of_same rfl rfl rfl rfl rfl
  obtain ⟨k, goesOn, u, by_steps⟩ := steady.ready.turnBySteps
  obtain ⟨turn, same⟩ := stilled.runTurn steady.untimed rfl
  -- From the session on the still clock back to the one that turns, and on to the one that steps.
  have across : Follows text (s.withClock {}) t := by
    have across := stilled.symm.trans follows
    rwa [String.append_empty] at across
  obtain ⟨v, steps, after⟩ := across.repeats steady.untimed by_steps.steps
  refine ⟨k, goesOn, v, steps, ?_, ?_⟩
  · have whole := (same.trans (.of_agrees by_steps.agrees)).trans after
    rwa [String.append_empty, String.append_empty] at whole
  · rw [by_steps.told, turn]

/-- A turn after which the guest runs on. -/
theorem goesOn (steady : s.Steady) (turn : s.runTurn.1 = .goesOn) :
    s.runTurn.2.takeOutput.2.Steady := by
  have judged := judged_stepMany s
  rcases runTurn_eq steady.running with ⟨batch, -⟩ | ⟨-, stopped⟩
  · have mirrored : s.Mirrored := steady.ready.mirrored
    have mirrored := mirrored.of_judged judged
    have listing := judged.listing
    have size := judged.batchSize steady.ready.batchSize
    rw [batch] at judged mirrored listing size
    refine ⟨⟨?_, ?_, mirrored, rfl, size⟩, listing ▸ steady.untimed⟩
    · rcases runTurn_of_running steady.running with ⟨-, running⟩ | ⟨reason, stops, -⟩
      · exact running
      · rw [turn] at stops
        cases stops
    · exact (judged.of_goesOn rfl).1
  · rw [turn] at stopped
    exact absurd stopped.symm (stoppedTurn_ne_goesOn _)

/-- The induction is on the turns: the session that was stepped so far has all the output that was
taken from the other one before what waits there. -/
theorem runBySteps {taken : List String} {flag : StopFlag} {fuel : Nat}
    {reason : Option StopReason} {r : Run Machine (List String)} (steady : s.Steady)
    (follows : Follows (String.join taken) s t) (quiet : flag.requested = false)
    (ran : runUntilStopped collect fuel ⟨s, flag, taken⟩ = some (reason, r)) :
    ∃ k v, Repeats Session.step (.ok true) k t (.ok false) v ∧
      Follows (String.join r.caller) r.session v := by
  induction fuel generalizing s t taken flag with
  | zero => cases ran
  | succ fuel ih =>
      obtain ⟨k, goesOn, v, steps, after, told⟩ := steady.turnBySteps follows
      have rest := steady.goesOn
      rw [runUntilStopped_succ] at ran
      simp only [quiet, Bool.false_eq_true, if_false] at ran
      generalize s.runTurn = x at after told rest ran
      obtain ⟨turn, s'⟩ := x
      cases turn with
      | goesOn =>
          obtain rfl := told.2 rfl
          have collected := Follows.collect (r := ⟨s', {}, taken⟩) after
          obtain ⟨k', v', steps', after'⟩ := ih (rest rfl) collected rfl ran
          exact ⟨k' + k, v', steps.append rfl steps', after'⟩
      | stopped reason' =>
          obtain rfl : goesOn = false := by simpa using told
          cases ran
          exact ⟨k, v, steps, after⟩
      | idle =>
          obtain rfl : goesOn = false := by simpa using told
          cases ran
          exact ⟨k, v, steps, after⟩

end Steady

/-! ### Where a run ends -/

/-- Where single steps take a session that was set running: until one does not go on. If a stop is
requested or the guest does not run, it ends at once. -/
inductive StepsOut (flag : StopFlag) (s : Session Machine) : Session Machine → Prop
  | atOnce (idle : (if flag.requested then s.stopRunning else s).state ≠ .running) :
      StepsOut flag s (if flag.requested then s.stopRunning else s)
  | byAndBy {k : Nat} {v : Session Machine} (quiet : flag.requested = false)
      (running : s.state = .running)
      (steps : Repeats Session.step (.ok true) k s (.ok false) v) : StepsOut flag s v

theorem StepsOut.unique {flag : StopFlag} {s v w : Session Machine} (first : StepsOut flag s v)
    (second : StepsOut flag s w) : v = w := by
  cases first with
  | atOnce idle =>
      cases second with
      | atOnce => rfl
      | byAndBy quiet running =>
          rw [quiet] at idle
          exact absurd running idle
  | byAndBy quiet running steps =>
      cases second with
      | atOnce idle =>
          rw [quiet] at idle
          exact absurd running idle
      | byAndBy _ _ steps' => exact (steps.unique steps' nofun nofun).2.2

/-- How a run proceeds: how large its first batch is, how the next ones grow, and what the clock
tells. -/
structure Pace where
  /-- The size of the first batch. Zero counts as one. -/
  size : UInt32
  /-- How batches grow. -/
  settings : StepSettings
  /-- The clock. -/
  clock : Clock

/-- A session that proceeds at a pace. -/
def paced (s : Session Machine) (p : Pace) : Session Machine :=
  (s.withClock p.clock).tuned p.size p.settings

theorem follows_paced (s : Session Machine) (p : Pace) : Follows "" (s.paced p) s :=
  .of_same rfl rfl rfl rfl rfl

theorem steady_paced {s : Session Machine} (reached : Reachable s)
    (untimed : s.engine.listing.Untimed) (p : Pace)
    (running : (s.paced p).startRunning.state = .running) : (s.paced p).startRunning.Steady := by
  have alive : s.exitCode = none := by
    cases ended : s.exitCode with
    | none => rfl
    | some code =>
        have exitCode : (s.paced p).exitCode = some code := ended
        rw [startRunning, exitCode] at running
        cases running
  have started : (s.paced p).startRunning = { s.paced p with state := .running } := by
    have exitCode : (s.paced p).exitCode = none := alive
    rw [startRunning, exitCode]
  rw [started]
  exact ⟨⟨rfl, alive, reached.mirrored, rfl, max_one_ne_zero p.size⟩, untimed⟩

/-- A run at any pace ends where single steps do, and what was taken between its turns is what waits
there. -/
theorem stepsOut_of_runInPieces {s u : Session Machine} {p : Pace} {fuel : Nat} {flag : StopFlag}
    {pieces : List String} (reached : Reachable s) (untimed : s.engine.listing.Untimed)
    (ran : runInPieces fuel (s.paced p).startRunning flag = some (pieces, u)) :
    ∃ v, StepsOut flag s.startRunning v ∧ Follows (String.join pieces) u v := by
  have follows := (follows_paced s p).startRunning
  simp only [runInPieces, Option.map_eq_some_iff, Prod.exists, Prod.mk.injEq] at ran
  obtain ⟨reason, r, ran, rfl, rfl⟩ := ran
  have stopped : Follows ""
      (if flag.requested then (s.paced p).startRunning.stopRunning else (s.paced p).startRunning)
      (if flag.requested then s.startRunning.stopRunning else s.startRunning) := by
    split
    · exact follows.stopRunning
    · exact follows
  by_cases running : (if flag.requested then (s.paced p).startRunning.stopRunning
      else (s.paced p).startRunning).state = .running
  · have quiet : flag.requested = false := by
      cases requested : flag.requested with
      | false => rfl
      | true =>
          rw [requested, if_pos rfl] at running
          exact absurd running (state_stopRunning_ne _)
    simp only [quiet, Bool.false_eq_true, if_false] at running
    have steady := steady_paced reached untimed p running
    have start : Follows (String.join []) (s.paced p).startRunning s.startRunning := follows
    obtain ⟨k, v, steps, after⟩ := steady.runBySteps start quiet ran
    exact ⟨v, .byAndBy quiet (follows.state.trans running) steps, after.collect⟩
  · refine ⟨_, .atOnce fun eq => running (stopped.state.symm.trans eq), Follows.collect ?_⟩
    cases fuel with
    | zero => cases ran
    | succ fuel =>
        rw [runUntilStopped_succ, runTurn_of_not_running running] at ran
        cases ran
        exact stopped

/-- Runs at two paces take the same output, in other pieces, and end in sessions that have the same
before them. -/
theorem runInPieces_agree {s u v : Session Machine} {p q : Pace} {fuel fuel' : Nat}
    {flag : StopFlag} {pieces pieces' : List String} (reached : Reachable s)
    (untimed : s.engine.listing.Untimed)
    (ran : runInPieces fuel (s.paced p).startRunning flag = some (pieces, u))
    (ran' : runInPieces fuel' (s.paced q).startRunning flag = some (pieces', v)) :
    String.join pieces = String.join pieces' ∧ Follows "" u v := by
  obtain ⟨w, out, after⟩ := stepsOut_of_runInPieces reached untimed ran
  obtain ⟨w', out', after'⟩ := stepsOut_of_runInPieces reached untimed ran'
  obtain rfl := out.unique out'
  have drained := output_of_runInPieces ran
  have drained' := output_of_runInPieces ran'
  have output : ∀ {pieces : List String} {u : Session Machine}, u.host.output = "" →
      Follows (String.join pieces) u w → w.host.output = String.join pieces := by
    intro pieces u taken after
    rw [after.host, Host.behind, taken, String.append_empty]
  have joined := (output drained after).symm.trans (output drained' after')
  have exitCode : v.host.exitCode = u.host.exitCode := after'.exitCode.symm.trans after.exitCode
  have display : v.host.display = u.host.display := after'.display.symm.trans after.display
  have taken : v.host.output = u.host.output := drained'.trans drained.symm
  refine ⟨joined, .of_same ?_ ?_ ?_ ?_ ?_⟩
  · exact after'.engine.symm.trans after.engine
  · dsimp only
    rw [← exitCode, ← display, ← taken]
  · exact after'.breakpoints.symm.trans after.breakpoints
  · exact after'.state.symm.trans after.state
  · exact after'.labels.symm.trans after.labels

end Session

end GuestDebugger
