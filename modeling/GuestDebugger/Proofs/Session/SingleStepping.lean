import GuestDebugger.Proofs.Session.BreakSet
import GuestDebugger.Proofs.Session.Exit

/-! # Turns get as far as single steps

A batch is judged once at its end, single steps are judged each time. Both come to the same: the
engine leaves a batch wherever a single step would stop, because its break set mirrors the
breakpoint table, and a batch that begins on a breakpoint makes the one step that leaves it.

## Implementation notes

Batches read the clock and single steps do not, so the clock must not move when it is read. What
batches keep for themselves, their size and the estimate of the rate, is what the two may differ in;
instructions before a fault in a batch are not counted, so the counts may differ then. -/

namespace GuestDebugger

/-- Repeated calls: each but the last gives `more`, the last gives `r` and leaves `t`. -/
inductive Repeats {σ ρ : Type} (call : σ → ρ × σ) (more : ρ) : Nat → σ → ρ → σ → Prop
  | once {s t : σ} {r : ρ} (last : call s = (r, t)) : Repeats call more 1 s r t
  | again {n : Nat} {s s' t : σ} {r : ρ} (first : call s = (more, s'))
      (rest : Repeats call more n s' r t) : Repeats call more (n + 1) s r t

namespace Repeats

variable {σ ρ : Type} {call : σ → ρ × σ} {more q r : ρ} {s t u : σ} {n k : Nat}

theorem append (first : Repeats call more n s q t) (goesOn : q = more)
    (rest : Repeats call more k t r u) : Repeats call more (k + n) s r u := by
  induction first with
  | once last => exact .again (goesOn ▸ last) rest
  | again first _ ih => exact .again first (ih goesOn rest)

/-- What calls pass over does not change how often they repeat. -/
theorem map {f : σ → σ} (passes : ∀ s, call (f s) = ((call s).1, f (call s).2))
    (repeats : Repeats call more n s r t) : Repeats call more n (f s) r (f t) := by
  induction repeats with
  | once last => exact .once (by rw [passes, last])
  | again first _ ih => exact .again (by rw [passes, first]) ih

/-- Repeated calls of what is mapped are mapped from repeated calls. -/
theorem of_map {τ : Type} {call' : τ → ρ × τ} {f : σ → τ} {t' : τ}
    (passes : ∀ s, call' (f s) = ((call s).1, f (call s).2))
    (repeats : Repeats call' more n (f s) r t') : ∃ t, Repeats call more n s r t ∧ f t = t' := by
  generalize start : f s = s' at repeats
  induction repeats generalizing s with
  | once last =>
      rw [← start, passes] at last
      cases last
      exact ⟨(call s).2, .once rfl, rfl⟩
  | again first _ ih =>
      rw [← start, passes] at first
      obtain ⟨goesOn, next⟩ := Prod.mk.inj first
      obtain ⟨t, rest, eq⟩ := ih next
      exact ⟨t, .again (Prod.ext goesOn rfl) rest, eq⟩

end Repeats

namespace Session

/-- Sessions that agree in all but what batches keep for themselves and what was counted. -/
structure Agrees (s t : Session Machine) : Prop where
  engine : s.engine = t.engine
  host : s.host = t.host
  breakpoints : s.breakpoints = t.breakpoints
  state : s.state = t.state
  settings : s.settings = t.settings
  labels : s.labels = t.labels

/-! ### What single steps pass over -/

/-- A session with another batch size and another estimate of the rate. -/
def retune (s : Session Machine) (batchSize : UInt32) (rate : Float) : Session Machine :=
  { s with batchSize, rate }

theorem agrees_retune (s : Session Machine) (size : UInt32) (rate : Float) :
    Agrees (s.retune size rate) s := ⟨rfl, rfl, rfl, rfl, rfl, rfl⟩

theorem Agrees.eq_retune {s t : Session Machine} (agrees : Agrees s t)
    (count : s.instructionCount = t.instructionCount) : t = s.retune t.batchSize t.rate := by
  obtain ⟨_, _, _, _, _, _, _, _, _⟩ := s
  obtain ⟨_, _, _, _, _, _, _, _, _⟩ := t
  obtain ⟨rfl, rfl, rfl, rfl, rfl, rfl⟩ := agrees
  cases count
  rfl

theorem Agrees.trans {s t u : Session Machine} (first : Agrees s t) (second : Agrees t u) :
    Agrees s u :=
  ⟨first.engine.trans second.engine, first.host.trans second.host,
    first.breakpoints.trans second.breakpoints, first.state.trans second.state,
    first.settings.trans second.settings, first.labels.trans second.labels⟩

theorem evaluateStop_retune (s : Session Machine) (size : UInt32) (rate : Float) :
    (s.retune size rate).evaluateStop =
      (s.evaluateStop.1, s.evaluateStop.2.retune size rate) := by
  have exitCode : (s.retune size rate).exitCode = s.exitCode := rfl
  have entry : (s.retune size rate).breakpoints.get? (s.retune size rate).pc =
    s.breakpoints.get? s.pc := rfl
  simp only [evaluateStop, exitCode, entry]
  cases s.exitCode with
  | some code => rfl
  | none =>
      cases s.breakpoints.get? s.pc with
      | none => rfl
      | some b =>
          dsimp only
          cases b.disabled
          · cases b.isTransient <;> rfl
          · rfl

theorem enterStep_retune (s : Session Machine) (size : UInt32) (rate : Float) :
    (s.retune size rate).enterStep = s.enterStep.retune size rate := by
  have same : (s.retune size rate).state = s.state := rfl
  simp only [enterStep, same]
  split <;> rfl

theorem step_retune (s : Session Machine) (size : UInt32) (rate : Float) :
    (s.retune size rate).step = (s.step.1, s.step.2.retune size rate) := by
  cases ended : s.exitCode with
  | some code =>
      have ended' : (s.retune size rate).exitCode = some code := ended
      rw [step_of_exited ended, step_of_exited ended']
      rfl
  | none =>
      have alive : (s.retune size rate).exitCode = none := ended
      have ran : Engine.step (s.retune size rate).engine (s.retune size rate).host =
        Engine.step s.engine s.host := rfl
      rw [step_of_alive ended, step_of_alive alive, ran, enterStep_retune]
      cases (Engine.step s.engine s.host).outcome with
      | error halt => cases halt <;> rfl
      | ok done =>
          exact evaluateStop_retune ((s.enterStep.afterRun _).countInstructions 1) size rate

/-! ### Single steps of a running guest -/

/-- A running session in which batches get anywhere, on a clock that does not move when it is
read. -/
structure Ready (s : Session Machine) : Prop where
  running : s.state = .running
  alive : s.exitCode = none
  mirrored : s.Mirrored
  still : s.host.clock.Still
  batchSize : s.batchSize ≠ 0

/-- The session after instructions that left engine and host as given. -/
def after (s : Session Machine) (count : Nat) (m : Machine) (h : Host) : Session Machine :=
  { s with engine := m, host := h, instructionCount := s.instructionCount + count }

theorem after_after (s : Session Machine) (n k : Nat) (m m' : Machine) (h h' : Host) :
    (s.after n m h).after k m' h' = s.after (n + k) m' h' := by
  simp only [after, Nat.add_assoc]

namespace Ready

variable {s : Session Machine} {m : Machine} {h : Host}

theorem after (ready : s.Ready) (count : Nat) (frame : Machine.Frame s.engine s.host m h)
    (alive : h.exitCode = none) : (s.after count m h).Ready where
  running := ready.running
  alive := alive
  mirrored := by
    have mirrored := ready.mirrored
    rw [Mirrored, ← frame.breaks] at mirrored
    exact mirrored
  still := by
    have same : h.clock = s.host.clock := frame.clock ready.still
    simp only [Session.after, same]
    exact ready.still
  batchSize := ready.batchSize

/-- The engine would go on exactly where the session does. -/
theorem evaluateStop (ready : s.Ready) (free : s.engine.hasBreak s.pc = false) :
    s.evaluateStop = (.ok true, s) := by
  have inactive : s.breakpoints.isActive s.pc = false := by
    have notIn : s.pc ∉ s.engine.breaks := by simpa [Machine.hasBreak] using free
    rw [ready.mirrored.mem_iff_isActive] at notIn
    simpa using notIn
  have evaluated := evaluated_evaluateStop s
  generalize s.evaluateStop = x at evaluated ⊢
  cases evaluated with
  | goesOn => rfl
  | exited ended =>
      rw [ready.alive] at ended
      cases ended
  | breakpoint _ entry enabled =>
      have active := Breakpoints.isActive_iff.2 ⟨_, entry, enabled⟩
      rw [inactive] at active
      cases active

theorem enterStep (ready : s.Ready) : s.enterStep = s := by
  rw [Session.enterStep, ready.running]
  rfl

theorem step_of_ok (ready : s.Ready) (ran : s.engine.step s.host = ⟨m, h, .ok ()⟩) :
    s.step = (s.after 1 m h).evaluateStop := by
  have engine : Engine.step s.engine s.host = ⟨m, h, .ok ()⟩ := ran
  rw [step_of_alive ready.alive, ready.enterStep, engine]
  rfl

theorem step_of_error (ready : s.Ready) {halt : Halt}
    (ran : s.engine.step s.host = ⟨m, h, .error halt⟩) :
    s.step = (.ok false, (s.after 0 m h).stop (.fault halt)) := by
  have engine : Engine.step s.engine s.host = ⟨m, h, .error halt⟩ := ran
  have ends := Machine.ends_step s.engine ready.alive
  rw [ran] at ends
  obtain ⟨e, rfl, -⟩ := ends.failed halt rfl
  rw [step_of_alive ready.alive, ready.enterStep, engine]
  rfl

/-- Instructions that the engine executes on its own are single steps of the session. All but the
last go on, since the engine did. -/
theorem repeats_of_runs {n : Nat} (ready : s.Ready)
    (runs : Machine.Runs (n + 1) s.engine s.host m h) {x : Executed Machine}
    (last : (s.after (n + 1) m h).evaluateStop = x) :
    Repeats step (.ok true) (n + 1) s x.1 x.2 := by
  induction n generalizing s with
  | zero =>
      obtain _ | ⟨_, first, _, rest⟩ := runs
      cases rest
      exact .once ((ready.step_of_ok first).trans last)
  | succ n ih =>
      obtain _ | ⟨_, first, alive, rest⟩ := runs
      rename_i m₁ h₁ _
      have alive₁ : h₁.exitCode = none := by
        rcases alive with first | alive
        · cases first
        · exact alive
      have frame : Machine.Frame s.engine s.host m₁ h₁ :=
        (Machine.Runs.more ‹_› first (.inl rfl) (.nothing m₁ h₁)).frame
      have ready₁ := ready.after 1 frame alive₁
      have goesOn : s.step = (.ok true, s.after 1 m₁ h₁) := by
        obtain _ | ⟨free, _, _, _⟩ := rest
        rw [ready.step_of_ok first, ready₁.evaluateStop free]
      refine .again goesOn (ih ready₁ rest ?_)
      rw [after_after, Nat.add_comm 1]
      exact last

/-- An instruction that fails after others of the same batch fails as a single step. -/
theorem repeats_of_fails {n : Nat} {m₁ : Machine} {h₁ : Host} {halt : Halt} (ready : s.Ready)
    (runs : Machine.Runs n s.engine s.host m₁ h₁) (free : m₁.hasBreak m₁.pc = false)
    (alive : n = 0 ∨ h₁.exitCode = none) (fails : m₁.step h₁ = ⟨m, h, .error halt⟩) :
    Repeats step (.ok true) (n + 1) s (.ok false) ((s.after n m h).stop (.fault halt)) := by
  have ready₁ := ready.after n runs.frame (runs.alive ready.alive alive)
  have last := ready₁.step_of_error fails
  rw [after_after, Nat.add_zero] at last
  cases n with
  | zero =>
      cases runs
      exact .once last
  | succ n =>
      have first := ready.repeats_of_runs runs (ready₁.evaluateStop free)
      rw [Nat.add_comm]
      exact first.append rfl (.once last)

end Ready

/-! ### Batches -/

/-- What a batch of a session comes to: instructions after which the session is judged, but for what
batches keep for themselves, or an instruction that fails after others. -/
inductive BatchRan (s : Session Machine) : Executed Machine → Prop
  | judged {n : Nat} {m : Machine} {h : Host} (size : UInt32) (rate : Float)
      (runs : Machine.Runs n s.engine s.host m h) (atBreak : n = 0 → m.hasBreak m.pc = true) :
      BatchRan s ((s.after n m h).retune size rate).evaluateStop
  | failed {n : Nat} {m₁ m : Machine} {h₁ h : Host} {halt : Halt}
      (runs : Machine.Runs n s.engine s.host m₁ h₁) (free : m₁.hasBreak m₁.pc = false)
      (alive : n = 0 ∨ h₁.exitCode = none) (fails : m₁.step h₁ = ⟨m, h, .error halt⟩) :
      BatchRan s (.ok false, (s.after 0 m h).stop (.fault halt))

theorem Ready.batchRan {s : Session Machine} (ready : s.Ready) : BatchRan s s.runBatch := by
  have batched := Machine.batched_stepMany s.engine s.host s.batchSize
  have ends := Machine.ends_stepMany s.engine ready.alive s.batchSize
  have engine : Engine.stepMany s.engine s.host s.batchSize =
    s.engine.stepMany s.host s.batchSize := rfl
  have clock := Host.readClock_still ready.still
  simp only [runBatch, clock, engine]
  generalize s.engine.stepMany s.host s.batchSize = ran at batched ends ⊢
  have positive : 0 < s.batchSize.toNat :=
    Nat.pos_of_ne_zero fun zero => ready.batchSize (UInt32.toNat_inj.1 zero)
  cases batched with
  | @finished n m h total runs bounded full sum =>
      have count : total.toNat = n := by
        have less := UInt32.toNat_lt_size s.batchSize
        rw [sum, UInt32.zero_add, UInt32.toNat_ofNat_of_lt' (by omega)]
      have clock' : h.readClock.2 = h := by
        have same : h.clock = s.host.clock := runs.frame.clock ready.still
        exact Host.readClock_still (same ▸ ready.still)
      dsimp only
      rw [clock', count]
      refine .judged _ _ runs ?_
      intro zero
      rcases full (by omega) with atBreak | ⟨more, -⟩
      · exact atBreak
      · omega
  | failed runs _ free alive fails =>
      obtain ⟨e, rfl, -⟩ := ends.failed _ rfl
      exact .failed runs free alive fails

/-- A call that leaves a session where `k` single steps leave it, the last of which tells the same.
The counts are the same too unless the call ended in a fault. -/
structure StepsTo (s : Session Machine) (x : Executed Machine) (k : Nat) (goesOn : Bool)
    (t : Session Machine) : Prop where
  positive : 0 < k
  steps : Repeats step (.ok true) k s (.ok goesOn) t
  outcome : x.1 = .ok goesOn
  agrees : Agrees x.2 t
  count : (∀ cause, t.state ≠ .stopped (.fault cause)) → x.2.instructionCount = t.instructionCount

namespace StepsTo

variable {s s' t : Session Machine} {x : Executed Machine} {k : Nat} {goesOn : Bool}

/-- A step before. -/
theorem again (first : s.step = (.ok true, s')) (rest : StepsTo s' x k goesOn t) :
    StepsTo s x (k + 1) goesOn t :=
  ⟨Nat.succ_pos k, .again first rest.steps, rest.outcome, rest.agrees, rest.count⟩

/-- A single step, but for what batches keep for themselves. -/
theorem single {u : Session Machine} (size : UInt32) (rate : Float)
    (eq : s.step = u.evaluateStop) :
    ∃ goesOn t, StepsTo s (u.retune size rate).evaluateStop 1 goesOn t := by
  obtain ⟨goesOn, answer⟩ := (judged_step s).answered
  refine ⟨goesOn, s.step.2, Nat.one_pos, .once answer, ?_, ?_, ?_⟩
  · rw [evaluateStop_retune, ← eq, answer]
  · rw [evaluateStop_retune, ← eq]
    exact agrees_retune _ size rate
  · intro _
    rw [evaluateStop_retune, ← eq]
    rfl

end StepsTo

/-- A batch that begins where the engine does not stop gets as far as single steps. -/
theorem Ready.stepsTo_runBatch {s : Session Machine} (ready : s.Ready)
    (free : s.engine.hasBreak s.pc = false) :
    ∃ k goesOn t, StepsTo s s.runBatch k goesOn t := by
  have batch := ready.batchRan
  generalize s.runBatch = x at batch ⊢
  cases batch with
  | @judged n m h size rate runs onBreak =>
      cases n with
      | zero =>
          cases runs
          have atBreak : s.engine.hasBreak s.pc = true := onBreak rfl
          rw [free] at atBreak
          cases atBreak
      | succ n =>
          obtain ⟨goesOn, answer⟩ :=
            evaluateStop_answered (s.after (n + 1) m h)
          refine ⟨n + 1, goesOn, _, Nat.succ_pos n, ready.repeats_of_runs runs answer, ?_, ?_, ?_⟩
          · rw [evaluateStop_retune, answer]
          · rw [evaluateStop_retune]
            exact agrees_retune _ size rate
          · intro _
            rw [evaluateStop_retune]
            rfl
  | @failed n m₁ m h₁ h halt runs free₁ alive fails =>
      refine ⟨n + 1, false, _, Nat.succ_pos n, ready.repeats_of_fails runs free₁ alive fails, rfl,
        ⟨rfl, rfl, rfl, rfl, rfl, rfl⟩, ?_⟩
      intro noFault
      exact absurd rfl (noFault halt)

/-- A batch that begins right after a step gets as far as that step and more. If the engine does not
move at all, the session is judged as it would have been after the step. -/
theorem Ready.stepsTo_runBatch_after {s s₁ : Session Machine} (ready₁ : s₁.Ready)
    (first : s.step = s₁.evaluateStop) : ∃ k goesOn t, StepsTo s s₁.runBatch k goesOn t := by
  cases free : s₁.engine.hasBreak s₁.pc with
  | false =>
      obtain ⟨k, goesOn, t, rest⟩ := ready₁.stepsTo_runBatch free
      exact ⟨k + 1, goesOn, t, rest.again (first.trans (ready₁.evaluateStop free))⟩
  | true =>
      have batch := ready₁.batchRan
      generalize s₁.runBatch = x at batch ⊢
      have blocked : ∀ {n m h}, Machine.Runs n s₁.engine s₁.host m h →
          n = 0 ∧ m = s₁.engine ∧ h = s₁.host := by
        intro n m h runs
        cases runs with
        | nothing => exact ⟨rfl, rfl, rfl⟩
        | more free' =>
            have atBreak : s₁.engine.hasBreak s₁.engine.pc = true := free
            rw [free'] at atBreak
            cases atBreak
      cases batch with
      | judged size rate runs =>
          obtain ⟨rfl, rfl, rfl⟩ := blocked runs
          exact ⟨1, StepsTo.single size rate first⟩
      | failed runs free' =>
          obtain ⟨rfl, rfl, rfl⟩ := blocked runs
          have atBreak : s₁.engine.hasBreak s₁.engine.pc = true := free
          rw [free'] at atBreak
          cases atBreak

/-- What a call leaves is what a single step leaves. -/
theorem StepsTo.same {s : Session Machine} {x : Executed Machine} (eq : s.step = x) :
    ∃ k goesOn t, StepsTo s x k goesOn t := by
  subst eq
  obtain ⟨goesOn, answer⟩ := (judged_step s).answered
  exact ⟨1, goesOn, s.step.2, Nat.one_pos, .once answer, by rw [answer],
    ⟨rfl, rfl, rfl, rfl, rfl, rfl⟩, fun _ => rfl⟩

/-- A batch gets as far as single steps, wherever it begins. -/
theorem Ready.stepsTo_stepMany {s : Session Machine} (ready : s.Ready) :
    ∃ k goesOn t, StepsTo s s.stepMany k goesOn t := by
  cases active : s.breakpoints.isActive s.pc with
  | false =>
      rw [stepMany_of_inactive ready.alive active]
      exact ready.stepsTo_runBatch (ready.mirrored.hasBreak_of_inactive active)
  | true =>
      -- The step that leaves the breakpoint is the first of the single steps.
      have frame := (Machine.ends_step s.engine ready.alive).frame
      cases ran : s.engine.step s.host with
      | mk m h outcome =>
          rw [ran] at frame
          have engine : Engine.step s.engine s.host = ⟨m, h, outcome⟩ := ran
          cases outcome with
          | error halt =>
              refine StepsTo.same ?_
              have ends := Machine.ends_step s.engine ready.alive
              rw [ran] at ends
              obtain ⟨e, rfl, -⟩ := ends.failed halt rfl
              rw [ready.step_of_error ran, stepMany_of_active ready.alive active, engine]
              rfl
          | ok done =>
              cases done
              have first := ready.step_of_ok ran
              have batch : s.stepMany = (s.after 1 m h).runRest := by
                rw [stepMany_of_active ready.alive active, engine]
                rfl
              rw [batch, runRest]
              split
              · exact StepsTo.same first
              · rename_i goesOn
                have alive : (s.after 1 m h).exitCode = none := by simpa using goesOn
                exact (ready.after 1 frame alive).stepsTo_runBatch_after first

/-! ### Turns -/

/-- The guest runs on after a batch that does not stop it, under the same conditions. -/
theorem Ready.of_stepMany {s t : Session Machine} (ready : s.Ready)
    (goesOn : s.stepMany = (.ok true, t)) : t.Ready := by
  have judged := judged_stepMany s
  have mirrored := ready.mirrored.of_judged judged
  generalize s.stepMany = x at judged goesOn mirrored
  cases judged with
  | ended => cases goesOn
  | failed => cases goesOn
  | @evaluated u _ progress =>
      obtain ⟨rfl, alive⟩ := evaluateStop_goesOn goesOn
      have same : t.host.clock = s.host.clock := progress.frame.clock ready.still
      rw [goesOn] at mirrored
      refine ⟨?_, alive, mirrored, same ▸ ready.still, progress.batchSize ready.batchSize⟩
      rcases progress.state with state | ⟨notRunning, -⟩
      · exact state.trans ready.running
      · exact absurd ready.running notRunning

/-- Single steps that come to what `n` turns come to. -/
structure TurnsBySteps (s : Session Machine) (n : Nat) (turn : Turn) (t : Session Machine) (k : Nat)
    (goesOn : Bool) (u : Session Machine) : Prop where
  /-- Every turn takes at least one step. -/
  many : n ≤ k
  /-- All steps but the last go on. -/
  steps : Repeats step (.ok true) k s (.ok goesOn) u
  /-- They leave the session as the turns do. -/
  agrees : Agrees t u
  /-- The last step tells what the last turn does. -/
  told : goesOn = true ↔ turn = .goesOn
  /-- They count the same unless the last turn ended in a fault. -/
  count : (∀ cause, turn ≠ .stopped (.fault cause)) → t.instructionCount = u.instructionCount

theorem stoppedTurn_ne_goesOn (s : Session Machine) : s.stoppedTurn ≠ .goesOn := by
  simp only [stoppedTurn]
  split <;> exact Turn.noConfusion

/-- A turn by single steps. -/
theorem Ready.turnBySteps {s : Session Machine} (ready : s.Ready) :
    ∃ k goesOn u, TurnsBySteps s 1 s.runTurn.1 s.runTurn.2 k goesOn u := by
  obtain ⟨k, goesOn, u, steps⟩ := ready.stepsTo_stepMany
  obtain ⟨positive, repeats, outcome, agrees, count⟩ := steps
  rcases runTurn_eq ready.running with ⟨batch, told⟩ | ⟨batch, told⟩
  · rw [batch] at outcome agrees count
    cases outcome
    refine ⟨k, true, u, positive, repeats, agrees, by simp [told], ?_⟩
    intro _
    apply count
    intro cause fault
    have running := (ready.of_stepMany batch).running
    rw [agrees.state, fault] at running
    cases running
  · rw [batch] at outcome agrees count
    cases outcome
    have stops : s.runTurn.1 ≠ .goesOn := told ▸ stoppedTurn_ne_goesOn _
    refine ⟨k, false, u, positive, repeats, agrees, by simp [stops], ?_⟩
    intro noFault
    apply count
    intro cause fault
    apply noFault cause
    rw [told, stoppedTurn, agrees.state, fault]
    rfl

/-- The induction is on the turns: the steps of one turn are followed by those of the rest, since
single steps pass over what the turn kept for itself. -/
theorem Ready.turnsBySteps {s t : Session Machine} {n : Nat} {turn : Turn} (ready : s.Ready)
    (turns : Repeats runTurn .goesOn n s turn t) :
    ∃ k goesOn u, TurnsBySteps s n turn t k goesOn u := by
  induction turns with
  | once last =>
      have single := ready.turnBySteps
      rw [last] at single
      exact single
  | @again n s s' t turn first rest ih =>
      have ready' : s'.Ready := by
        rcases runTurn_eq ready.running with ⟨batch, -⟩ | ⟨-, told⟩
        · rw [first] at batch
          exact ready.of_stepMany batch
        · rw [first] at told
          exact absurd told.symm (stoppedTurn_ne_goesOn s')
      obtain ⟨k, goesOn, u, one⟩ := ready.turnBySteps
      rw [first] at one
      obtain rfl : goesOn = true := one.told.2 rfl
      have same : u = s'.retune u.batchSize u.rate := one.agrees.eq_retune (one.count nofun)
      obtain ⟨k', goesOn', u', more⟩ := ih ready'
      have passed := more.steps.map fun s => step_retune s u.batchSize u.rate
      rw [← same] at passed
      refine ⟨k' + k, goesOn', u'.retune u.batchSize u.rate, ?_, one.steps.append rfl passed, ?_,
        more.told, more.count⟩
      · exact Nat.add_le_add more.many one.many
      · exact more.agrees.trans ⟨rfl, rfl, rfl, rfl, rfl, rfl⟩

theorem max_one (size : UInt32) : max size 1 = if size = 0 then 1 else size := by
  have le : size ≤ 1 ↔ size = 0 ∨ size = 1 := by
    rw [UInt32.le_iff_toNat_le, ← UInt32.toNat_inj, ← UInt32.toNat_inj]
    simp only [UInt32.toNat_zero, UInt32.toNat_one]
    omega
  change (if size ≤ 1 then 1 else size) = _
  simp only [le]
  by_cases zero : size = 0
  · simp [zero]
  · by_cases one : size = 1 <;> simp [zero, one]

theorem max_one_ne_zero (size : UInt32) : max size 1 ≠ 0 := by
  rw [max_one]
  split
  · decide
  · assumption

theorem batchSize_startRunning (s : Session Machine) : s.startRunning.batchSize = s.batchSize := by
  simp only [startRunning]
  split <;> rfl

theorem Reachable.batchSize_ne_zero {s : Session Machine} (reached : Reachable s) :
    s.batchSize ≠ 0 := by
  refine reached.keeps (P := fun s => s.batchSize ≠ 0) (fun _ _ settings _ => ?_)
    fun s o positive => ?_
  · simp only [create]
    exact max_one_ne_zero settings.initialBatchSize
  cases o with
  | step | stepMany | runStep | runTurn =>
      exact keeps_of_judged (P := fun s => s.batchSize ≠ 0) trivial positive
        fun _ judged => judged.batchSize positive
  | startRunning =>
      rw [apply, batchSize_startRunning]
      exact positive
  | stopRunning =>
      simp only [apply, stopRunning]
      split <;> exact positive
  | runTo a =>
      simp only [apply, runTo]
      split
      · exact positive
      · rw [batchSize_startRunning]
        exact positive
  | addBreakpoint | removeBreakpoint | toggleBreakpoint | takeOutput | setLabels | passTime =>
      exact positive

/-- A session with other settings for batches. As at the beginning, zero counts as one. -/
def tuned (s : Session Machine) (size : UInt32) (settings : StepSettings) : Session Machine :=
  { s with batchSize := max size 1, settings }

theorem ready_tuned {s : Session Machine} (reached : Reachable s) (running : s.state = .running)
    (still : s.host.clock.Still) (size : UInt32) (settings : StepSettings) :
    (s.tuned size settings).Ready where
  running := running
  alive := by
    cases ended : s.exitCode with
    | none => exact ended
    | some code =>
        have exited := (reached.settled code).1 ended
        rw [running] at exited
        cases exited
  mirrored := reached.mirrored
  still := still
  batchSize := max_one_ne_zero size

/-- Running in batches refines single stepping. From every reachable session whose guest is running
on a clock that does not move when it is read, with this or any other batch size and threshold, any
number of turns leave the session where at least as many single steps leave it, which go on until
the turns stop. -/
theorem turns_refine_steps {s : Session Machine} (reached : Reachable s)
    (running : s.state = .running) (still : s.host.clock.Still) :
    s.tuned s.batchSize s.settings = s ∧
      ∀ (size : UInt32) (settings : StepSettings) (n : Nat) (turn : Turn) (t : Session Machine),
        Repeats runTurn .goesOn n (s.tuned size settings) turn t →
          ∃ k goesOn u, TurnsBySteps (s.tuned size settings) n turn t k goesOn u := by
  constructor
  · simp only [tuned, max_one, reached.batchSize_ne_zero, if_false]
  · intro size settings n turn t turns
    exact (ready_tuned reached running still size settings).turnsBySteps turns

/-- Two turns, the second of which ends at a temporary breakpoint. -/
theorem turns_refine_steps_across_batches :
    let listing := Listing.ofOps
      [(0x10, .move "ecx" 2), (0x11, .write "a"), (0x12, .loop 0x11), (0x13, .exit 0)]
    let start := create (Machine.create listing 16) {} {}
    let s := (start.apply (.addBreakpoint 0x12 { temporary := true })).apply .startRunning
    let s₁ := (s.tuned 1 {}).runTurn.2
    Reachable s ∧ s.state = .running ∧ s.host.clock.Still ∧
      Repeats runTurn .goesOn 2 (s.tuned 1 {}) s₁.runTurn.1 s₁.runTurn.2 ∧
      ∃ k goesOn u,
        TurnsBySteps (s.tuned 1 {}) 2 s₁.runTurn.1 s₁.runTurn.2 k goesOn u := by
  intro listing start s s₁
  have reached : Reachable s := ((reachable_create _ _ _ _).operation _).operation _
  have running : s.state = .running := by decide
  have still : s.host.clock.Still := rfl
  have goesOn : (s.tuned 1 {}).runTurn.1 = .goesOn := by decide
  have first : (s.tuned 1 {}).runTurn = (.goesOn, s₁) := Prod.ext goesOn rfl
  have last : ∀ t : Session Machine, Repeats runTurn .goesOn 1 t t.runTurn.1 t.runTurn.2 :=
    fun _ => .once rfl
  have turns : Repeats runTurn .goesOn 2 (s.tuned 1 {}) s₁.runTurn.1 s₁.runTurn.2 :=
    .again first (last s₁)
  exact ⟨reached, running, still, turns,
    (turns_refine_steps reached running still).2 1 {} 2 _ _ turns⟩

end Session

end GuestDebugger
