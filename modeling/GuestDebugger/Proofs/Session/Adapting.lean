import GuestDebugger.Proofs.Session.BreakSet
import GuestDebugger.Proofs.Session.Counting
import Mathlib.Algebra.Ring.Nat

/-! # How batches adapt

A call of batch stepping runs one batch, unless the guest ends or fails before it. If the batch is
measured to be fast, the next one is twice as large, as far as 32 bits go; nothing else changes the
size. So the size tells how many batches were fast, whatever was done to a session, and a call after
which execution may go on ran its batch in full. -/

namespace GuestDebugger.Session

/-! ### The batch of a call -/

/-- A batch that ran without failing, as it was measured. -/
structure Batch where
  /-- How many instructions ran. -/
  executed : UInt32
  /-- How many milliseconds it took. -/
  elapsed : Float

/-- The session in which a call runs its batch, if it comes to that: the guest has not ended, and
the instruction that leaves a breakpoint neither fails nor ends it. -/
def beforeBatch? (s : Session Machine) : Option (Session Machine) :=
  if s.exitCode.isSome then none
  else if s.breakpoints.isActive s.pc then
    match s.engine.step s.host with
    | ⟨engine, host, .ok ()⟩ =>
        if host.exitCode.isSome then none
        else some { s with engine, host, instructionCount := s.instructionCount + 1 }
    | ⟨_, _, .error _⟩ => none
  else some s

/-- The batch of a call, if one runs without failing. -/
def batch? (s : Session Machine) : Option Batch :=
  s.beforeBatch?.bind fun u =>
    match u.engine.stepMany u.host.readClock.2 u.batchSize with
    | ⟨_, host, .ok executed⟩ =>
        some { executed, elapsed := host.readClock.1 - u.host.readClock.1 }
    | ⟨_, _, .error _⟩ => none

/-- Whether a call runs a batch without failing that takes less time than is taken for fast. -/
def fast (s : Session Machine) : Bool := s.batch?.any (·.elapsed < s.settings.fastBatchMs)

/-- Size and rate are as they were. -/
structure Unadapted (s t : Session Machine) : Prop where
  size : t.batchSize = s.batchSize
  rate : t.rate = s.rate

theorem Unadapted.refl (s : Session Machine) : Unadapted s s := ⟨rfl, rfl⟩

/-- What a call comes to that runs a batch, or none. -/
inductive Called (s : Session Machine) : Executed Machine → Prop
  | unmeasured {x : Executed Machine} (absent : s.batch? = none) (stops : x.1 = .ok false)
      (unadapted : Unadapted s x.2) : Called s x
  | measured {u : Session Machine} {batch : Batch} (found : s.batch? = some batch)
      (progress : Progress s u) (unadapted : Unadapted s u) (settings : u.settings = s.settings)
      (count : u.instructionCount = s.instructionCount + s.leaving + batch.executed.toNat)
      (full : batch.executed = s.batchSize ∨ u.engine.hasBreak u.pc = true ∨
        u.exitCode.isSome = true) :
      Called s (u.adapt batch.executed batch.elapsed).evaluateStop

/-- Judging a session neither adapts nor counts. -/
theorem evaluateStop_unadapted (u : Session Machine) :
    Unadapted u u.evaluateStop.2 ∧ u.evaluateStop.2.instructionCount = u.instructionCount := by
  have evaluated := evaluated_evaluateStop u
  generalize u.evaluateStop = x at evaluated ⊢
  cases evaluated with
  | exited | goesOn => exact ⟨⟨rfl, rfl⟩, rfl⟩
  | breakpoint =>
      dsimp only
      split <;> exact ⟨⟨rfl, rfl⟩, rfl⟩

theorem evaluateStop_of_exited {u : Session Machine} (ended : u.exitCode.isSome = true) :
    u.evaluateStop.1 = .ok false := by
  obtain ⟨code, ended⟩ := Option.isSome_iff_exists.1 ended
  simp only [evaluateStop, ended]

/-- Whether a call comes to a batch. If it does not, it tells that execution stops. -/
inductive Enters (s : Session Machine) : Option (Session Machine) → Prop
  | batch {u : Session Machine} (call : s.stepMany = u.runBatch) (progress : Progress s u)
      (unadapted : Unadapted s u) (settings : u.settings = s.settings)
      (count : u.instructionCount = s.instructionCount + s.leaving) : Enters s (some u)
  | none (stops : s.stepMany.1 = .ok false) (unadapted : Unadapted s s.stepMany.2) :
      Enters s none

theorem enters_beforeBatch? (s : Session Machine) : Enters s s.beforeBatch? := by
  cases ended : s.exitCode with
  | some code =>
      have absent : s.beforeBatch? = none := if_pos (by rw [ended]; rfl)
      have call := stepMany_of_exited ended
      rw [absent]
      exact .none (by rw [call]) (by rw [call]; exact ⟨rfl, rfl⟩)
  | none =>
      cases active : s.breakpoints.isActive s.pc with
      | false =>
          have found : s.beforeBatch? = some s := by
            simp only [beforeBatch?, ended, active]
            rfl
          have zero : s.leaving = 0 := by rw [leaving, active]; rfl
          rw [found]
          exact .batch (stepMany_of_inactive ended active) (.refl s) (.refl s) rfl
            (by rw [zero]; rfl)
      | true =>
          -- Only one instruction stands between the call and its batch.
          have one : s.leaving = 1 := if_pos active
          have call := stepMany_of_active ended active
          have ends := Machine.ends_step s.engine ended
          have same : Engine.step s.engine s.host = s.engine.step s.host := rfl
          have found : s.beforeBatch? =
              match s.engine.step s.host with
              | ⟨engine, host, .ok ()⟩ =>
                  if host.exitCode.isSome then none
                  else some { s with engine, host, instructionCount := s.instructionCount + 1 }
              | ⟨_, _, .error _⟩ => none := by
            simp only [beforeBatch?, ended, active]
            rfl
          rw [same] at call
          rw [found]
          generalize s.engine.step s.host = ran at call ends ⊢
          obtain ⟨m, h, outcome⟩ := ran
          cases outcome with
          | error halt =>
              obtain ⟨e, rfl, -⟩ := ends.failed halt rfl
              exact .none (by rw [call]; rfl) (by rw [call]; exact ⟨rfl, rfl⟩)
          | ok =>
              dsimp only
              split
              · rename_i exited
                have call := call.trans (if_pos exited)
                obtain ⟨⟨size, rate⟩, -⟩ := evaluateStop_unadapted
                  { s with engine := m, host := h, instructionCount := s.instructionCount + 1 }
                refine .none ?_ ?_
                · rw [call]
                  exact evaluateStop_of_exited exited
                · rw [call]
                  exact ⟨size, rate⟩
              · rename_i goesOn
                exact .batch (call.trans (if_neg goesOn)) ⟨ends.frame, rfl, .inl rfl, id⟩
                  ⟨rfl, rfl⟩ rfl (by rw [one])

/-- A batch that is not full was cut short by the break set or by the end of the guest. -/
theorem called_stepMany (s : Session Machine) : Called s s.stepMany := by
  have enters := s.enters_beforeBatch?
  cases entered : s.beforeBatch? with
  | none =>
      rw [entered] at enters
      cases enters with
      | none stops unadapted =>
          exact .unmeasured (by rw [batch?, entered]; rfl) stops unadapted
  | some u =>
      rw [entered] at enters
      obtain ⟨call, progress, unadapted, settings, count⟩ := enters
      have batched := Machine.batched_stepMany u.engine u.host.readClock.2 u.batchSize
      have found : s.batch? =
          match u.engine.stepMany u.host.readClock.2 u.batchSize with
          | ⟨_, host, .ok executed⟩ =>
              some { executed, elapsed := host.readClock.1 - u.host.readClock.1 }
          | ⟨_, _, .error _⟩ => none := by
        rw [batch?, entered]
        rfl
      have same : Engine.stepMany u.engine u.host.readClock.2 u.batchSize =
        u.engine.stepMany u.host.readClock.2 u.batchSize := rfl
      simp only [call, runBatch, same]
      generalize u.engine.stepMany u.host.readClock.2 u.batchSize = ran at batched found ⊢
      cases batched with
      | @finished n m h total runs bounded full sum =>
          have after : Progress s
              { u with engine := m, host := h.readClock.2 } :=
            ⟨progress.readClock.frame.trans (runs.frame.trans (.readClock m h)),
              progress.breakpoints, progress.state, progress.batchSize⟩
          have counted := after.countInstructions total.toNat
          have full' : total = u.batchSize ∨ m.hasBreak m.pc = true ∨ h.exitCode.isSome = true := by
            rcases Nat.lt_or_ge n u.batchSize.toNat with less | all
            · rcases full less with atBreak | ⟨-, ended⟩
              · exact .inr (.inl atBreak)
              · exact .inr (.inr ended)
            · refine .inl ?_
              rw [sum, UInt32.zero_add, Nat.le_antisymm bounded all, UInt32.ofNat_toNat]
          rw [unadapted.size] at full'
          dsimp only at found ⊢
          exact @Called.measured s _ ⟨total, h.readClock.1 - u.host.readClock.1⟩ found counted
            ⟨unadapted.size, unadapted.rate⟩ settings (congrArg (· + total.toNat) count) full'
      | @failed n m₁ m h₁ h halt _ _ _ _ fails =>
          have stepped := Machine.stepped_step m₁ h₁
          rw [fails] at stepped
          cases stepped with
          | failed e =>
              dsimp only at found ⊢
              exact .unmeasured found rfl ⟨unadapted.size, unadapted.rate⟩

/-! ### What a call adapts -/

theorem toNat_doubled (size : UInt32) :
    (doubled size).toNat = min (2 * size.toNat) (2 ^ 32 - 1) := by
  simp only [doubled, UInt32.size, UInt32.toNat_ofNat']
  omega

/-- A call doubles the size if it ran a fast batch, and keeps it if not. -/
theorem batchSize_stepMany (s : Session Machine) :
    s.stepMany.2.batchSize = if s.fast then doubled s.batchSize else s.batchSize := by
  have called := called_stepMany s
  generalize s.stepMany = x at called ⊢
  cases called with
  | unmeasured absent _ unadapted =>
      have slow : s.fast = false := by rw [fast, absent]; rfl
      rw [slow]
      exact unadapted.size
  | @measured u batch found _ unadapted settings =>
      have fast : s.fast = decide (batch.elapsed < u.settings.fastBatchMs) := by
        rw [Session.fast, found, settings]
        rfl
      rw [(evaluateStop_unadapted _).1.size, fast, ← unadapted.size]
      simp only [adapt, decide_eq_true_eq]

/-- The rate changes only by a batch that ran in full while time passed. -/
theorem rate_stepMany {s : Session Machine} (changes : s.stepMany.2.rate ≠ s.rate) :
    ∃ batch, s.batch? = some batch ∧ batch.executed = s.batchSize ∧ 0 < batch.elapsed := by
  have called := called_stepMany s
  generalize s.stepMany = x at called changes
  cases called with
  | unmeasured _ _ unadapted => exact absurd unadapted.rate changes
  | @measured u batch found _ unadapted =>
      refine ⟨batch, found, ?_⟩
      rw [(evaluateStop_unadapted _).1.rate, ← unadapted.rate] at changes
      rw [← unadapted.size]
      by_contra partly
      refine changes (if_neg ?_)
      simpa using partly

/-- A call after which execution may go on ran its batch in full: where a batch ends early, an
enabled breakpoint is, or the guest has ended. -/
theorem count_of_goesOn {s : Session Machine} (mirrored : s.Mirrored)
    (goesOn : s.stepMany.1 = .ok true) :
    s.stepMany.2.instructionCount = s.instructionCount + (s.batchSize.toNat + s.leaving) := by
  have called := called_stepMany s
  generalize s.stepMany = x at called goesOn ⊢
  cases called with
  | unmeasured _ stops => cases stops.symm.trans goesOn
  | @measured u batch _ progress _ _ count full =>
      have kept := (evaluateStop_unadapted (u.adapt batch.executed batch.elapsed)).2
      have evaluated := evaluated_evaluateStop (u.adapt batch.executed batch.elapsed)
      generalize (u.adapt batch.executed batch.elapsed).evaluateStop = x at evaluated kept goesOn ⊢
      cases evaluated with
      | exited | breakpoint => cases goesOn
      | goesOn alive inactive =>
          have free : u.engine.hasBreak u.pc = false :=
            (mirrored.of_progress progress).hasBreak_of_inactive inactive
          have alive : u.exitCode = none := alive
          rw [free, alive] at full
          have whole : batch.executed = s.batchSize := by simpa using full
          rw [kept, ← whole]
          have counted : (u.adapt batch.executed batch.elapsed).instructionCount =
            u.instructionCount := rfl
          omega

/-- All that it attempted was completed. If something had failed, no more than the instruction
before the batch would have been counted. -/
theorem attempts_of_goesOn {s : Session Machine} (mirrored : s.Mirrored)
    (positive : s.batchSize ≠ 0) (goesOn : s.stepMany.1 = .ok true) :
    (∀ x ∈ s.attempts .stepMany, x.completed = true) ∧
      (s.attempts .stepMany).length = s.batchSize.toNat + s.leaving := by
  have size : s.batchSize.toNat ≠ 0 := fun zero => positive (UInt32.toNat_inj.1 zero)
  have count := count_of_goesOn mirrored goesOn
  have erased : s.stepMany.2 = s.watched.stepMany.2.map Watched.machine :=
    congrArg Prod.snd (map_stepMany Watched.hom_machine s.watched)
  have watched : s.stepMany.2.instructionCount = s.watched.stepMany.2.instructionCount :=
    congrArg instructionCount erased
  have start : s.watched.instructionCount = s.instructionCount := rfl
  have leaving : s.watched.leaving = s.leaving := rfl
  obtain ⟨new, recorded⟩ := recorded_stepMany s.watched
  cases recorded with
  | completed log completed counted =>
      have attempts : s.attempts .stepMany = new := log.trans (List.nil_append new)
      rw [Watched.completions_of_completed completed] at counted
      rw [attempts]
      exact ⟨completed, by omega⟩
  | failed _ _ counted => omega

/-! ### Operations -/

/-- Whether an operation calls for a batch. -/
def callsBatch (s : Session Machine) : Operation → Bool
  | .stepMany => true
  | .runTurn => s.state.isRunning
  | _ => false

/-- Whether an operation runs a fast batch. -/
def runsFast (s : Session Machine) (o : Operation) : Bool := s.callsBatch o && s.fast

theorem unadapted_startRunning (s : Session Machine) : Unadapted s s.startRunning := by
  simp only [startRunning]
  split <;> exact ⟨rfl, rfl⟩

theorem unadapted_step (s : Session Machine) : Unadapted s s.step.2 := by
  cases ended : s.exitCode with
  | some code =>
      rw [step_of_exited ended]
      exact ⟨rfl, rfl⟩
  | none =>
      obtain ⟨state, entered, -⟩ := s.enterStep_eq
      rw [step_of_alive ended, entered]
      obtain ⟨m, h, outcome⟩ := Engine.step s.engine s.host
      cases outcome with
      | error halt => cases halt <;> exact ⟨rfl, rfl⟩
      | ok =>
          obtain ⟨⟨size, rate⟩, -⟩ := evaluateStop_unadapted
            { s with state, engine := m, host := h, instructionCount := s.instructionCount + 1 }
          exact ⟨size, rate⟩

/-- An operation that does not call for a batch adapts nothing. -/
theorem unadapted_apply {s : Session Machine} {o : Operation} (other : s.callsBatch o = false) :
    Unadapted s (s.apply o) := by
  cases o with
  | stepMany => cases other
  | runTurn =>
      have still : s.state.isRunning = false := other
      rw [apply, runTurn, still]
      exact .refl s
  | step => exact unadapted_step s
  | runStep =>
      obtain ⟨goesOn, eq, -⟩ := runStep_eq s
      have kept := unadapted_step s
      rw [eq] at kept
      exact kept
  | startRunning => exact unadapted_startRunning s
  | stopRunning =>
      simp only [apply, stopRunning]
      split <;> exact ⟨rfl, rfl⟩
  | runTo a =>
      simp only [apply, runTo]
      split
      · exact ⟨rfl, rfl⟩
      · obtain ⟨size, rate⟩ := unadapted_startRunning (s.addBreakpoint a { oneShot := true })
        exact ⟨size, rate⟩
  | addBreakpoint | removeBreakpoint | toggleBreakpoint | takeOutput | setLabels | passTime =>
      exact ⟨rfl, rfl⟩

/-- An operation that calls for a batch adapts what the call adapts. -/
theorem unadapted_of_callsBatch {s : Session Machine} {o : Operation}
    (calls : s.callsBatch o = true) : Unadapted s.stepMany.2 (s.apply o) := by
  cases o with
  | stepMany => exact .refl _
  | runTurn =>
      rcases runTurn_eq (RunState.eq_running_of_isRunning calls) with ⟨eq, -⟩ | ⟨eq, -⟩
      · rw [eq]
        exact .refl _
      · rw [eq]
        exact .refl _
  | _ => cases calls

theorem batchSize_apply (s : Session Machine) (o : Operation) :
    (s.apply o).batchSize = if s.runsFast o then doubled s.batchSize else s.batchSize := by
  cases calls : s.callsBatch o with
  | true =>
      rw [(unadapted_of_callsBatch calls).size, runsFast, calls, Bool.true_and]
      exact batchSize_stepMany s
  | false =>
      rw [runsFast, calls, Bool.false_and]
      exact (unadapted_apply calls).size

theorem rate_apply {s : Session Machine} {o : Operation} (changes : (s.apply o).rate ≠ s.rate) :
    s.callsBatch o = true ∧
      ∃ batch, s.batch? = some batch ∧ batch.executed = s.batchSize ∧ 0 < batch.elapsed := by
  cases calls : s.callsBatch o with
  | true =>
      rw [(unadapted_of_callsBatch calls).rate] at changes
      exact ⟨rfl, rate_stepMany changes⟩
  | false => exact absurd (unadapted_apply calls).rate changes

/-! ### Sequences of operations -/

section Performed

variable {ε : Type} [Engine ε]

/-- The operations of which a run consists, if `done` tells what the caller does. -/
def runOperations {σ : Type} (between : Run ε σ → Run ε σ) (done : Run ε σ → List Operation) :
    (fuel : Nat) → Run ε σ → List Operation
  | 0, _ => []
  | fuel + 1, r =>
      let stopping := if r.flag.requested then [Operation.stopRunning] else []
      stopping ++ .runTurn :: match (stopping.foldl apply r.session).runTurn with
        | (.goesOn, s) =>
            done { r with session := s, flag := {} } ++
              runOperations between done fuel (between { r with session := s, flag := {} })
        | _ => []

/-- A run comes to what its operations come to; the induction is on the turns. -/
theorem foldl_runOperations {σ : Type} {between : Run ε σ → Run ε σ}
    {done : Run ε σ → List Operation}
    (caller : ∀ q, (done q).foldl apply q.session = (between q).session) {fuel : Nat}
    {r r' : Run ε σ} {reason : Option StopReason}
    (ran : Session.runUntilStopped between fuel r = some (reason, r')) :
    (runOperations between done fuel r).foldl apply r.session = r'.session := by
  induction fuel generalizing r with
  | zero => cases ran
  | succ fuel ih =>
      have stopped : (if r.flag.requested then [Operation.stopRunning] else []).foldl apply
          r.session = if r.flag.requested then r.session.stopRunning else r.session := by
        split <;> rfl
      rw [runUntilStopped_succ] at ran
      simp only [runOperations, List.foldl_append, List.foldl_cons, stopped]
      generalize (if r.flag.requested then r.session.stopRunning else r.session) = s at ran ⊢
      simp only [apply]
      generalize s.runTurn = turn at ran ⊢
      obtain ⟨outcome, t⟩ := turn
      cases outcome with
      | goesOn =>
          have rest := ih ran
          rw [← caller] at rest
          simpa only [List.foldl_append] using rest
      | stopped | idle =>
          cases ran
          rfl

/-- Operations that lead from one session to another one. -/
inductive Performed : Session ε → List Operation → Session ε → Prop
  | refl (s : Session ε) : Performed s [] s
  | operation {s t : Session ε} {ops : List Operation} (performed : Performed s ops t)
      (o : Operation) : Performed s (ops ++ [o]) (t.apply o)
  | runUntilStopped {σ : Type} {s : Session ε} {ops : List Operation} {r r' : Run ε σ}
      {between : Run ε σ → Run ε σ} {done : Run ε σ → List Operation} {fuel : Nat}
      {reason : Option StopReason} (performed : Performed s ops r.session)
      (caller : ∀ q, Performed q.session (done q) (between q).session)
      (ran : Session.runUntilStopped between fuel r = some (reason, r')) :
      Performed s (ops ++ runOperations between done fuel r) r'.session

variable {s t : Session ε} {ops : List Operation}

theorem Performed.foldl (performed : Performed s ops t) : ops.foldl apply s = t := by
  induction performed with
  | refl => rfl
  | operation _ o ih => rw [List.foldl_append, ih, List.foldl_cons, List.foldl_nil]
  | runUntilStopped _ _ ran ih caller =>
      rw [List.foldl_append, ih]
      exact foldl_runOperations caller ran

theorem Performed.driven (performed : Performed s ops t) : Driven s t := by
  induction performed with
  | refl => exact .refl _
  | operation _ o ih => exact ih.operation o
  | runUntilStopped _ _ ran ih caller => exact ih.runUntilStopped caller ran

/-- Whatever leads from one session to another one is a sequence of operations. -/
theorem Driven.performed (driven : Driven s t) : ∃ ops, Performed s ops t := by
  induction driven with
  | refl s => exact ⟨[], .refl s⟩
  | operation _ o ih =>
      obtain ⟨ops, performed⟩ := ih
      exact ⟨_, performed.operation o⟩
  | runUntilStopped _ _ ran ih caller =>
      obtain ⟨ops, performed⟩ := ih
      choose done caller using caller
      exact ⟨_, performed.runUntilStopped caller ran⟩

end Performed

/-- How many operations of a sequence run fast batches. -/
def fastBatches : Session Machine → List Operation → Nat
  | _, [] => 0
  | s, o :: rest => (s.runsFast o).toNat + (s.apply o).fastBatches rest

/-- Doubling up to a limit, and then going on, is doubling more often up to the limit. -/
theorem min_doubled (limit size n : Nat) :
    min limit (min (2 * size) limit * 2 ^ n) = min limit (size * 2 ^ (n + 1)) := by
  have more : size * 2 ^ (n + 1) = 2 * size * 2 ^ n := by
    rw [Nat.pow_succ', ← Nat.mul_assoc, Nat.mul_comm size]
  rw [more]
  rcases Nat.le_total (2 * size) limit with small | large
  · rw [Nat.min_eq_left small]
  · have grown : limit ≤ limit * 2 ^ n := Nat.le_mul_of_pos_right limit (Nat.two_pow_pos n)
    have beyond : limit * 2 ^ n ≤ 2 * size * 2 ^ n := Nat.mul_le_mul_right _ large
    rw [Nat.min_eq_right large, Nat.min_eq_left grown,
      Nat.min_eq_left (Nat.le_trans grown beyond)]

/-- The induction is on the sequence: each fast batch doubles what the rest begins with. -/
theorem toNat_batchSize_foldl (s : Session Machine) (ops : List Operation) :
    (ops.foldl apply s).batchSize.toNat =
      min (2 ^ 32 - 1) (s.batchSize.toNat * 2 ^ s.fastBatches ops) := by
  induction ops generalizing s with
  | nil =>
      have bound := s.batchSize.toNat_lt
      simp only [List.foldl_nil, fastBatches, Nat.pow_zero, Nat.mul_one]
      omega
  | cons o rest ih =>
      rw [List.foldl_cons, ih, fastBatches, batchSize_apply]
      cases s.runsFast o with
      | false => rw [Bool.toNat_false, Nat.zero_add]; rfl
      | true => rw [Bool.toNat_true, Nat.add_comm, if_pos rfl, toNat_doubled, min_doubled]

theorem Performed.toNat_batchSize {s t : Session Machine} {ops : List Operation}
    (performed : Performed s ops t) :
    t.batchSize.toNat = min (2 ^ 32 - 1) (s.batchSize.toNat * 2 ^ s.fastBatches ops) := by
  rw [← performed.foldl]
  exact toNat_batchSize_foldl s ops

theorem Performed.batchSize_le {s t : Session Machine} {ops : List Operation}
    (performed : Performed s ops t) : s.batchSize ≤ t.batchSize := by
  have grown : s.batchSize.toNat ≤ s.batchSize.toNat * 2 ^ s.fastBatches ops :=
    Nat.le_mul_of_pos_right _ (Nat.two_pow_pos _)
  have bound := s.batchSize.toNat_lt
  rw [UInt32.le_iff_toNat_le, performed.toNat_batchSize]
  omega

theorem toNat_batchSize_create (m : Machine) (settings : StepSettings) (clock : Clock) :
    (create m settings clock).batchSize.toNat = max 1 settings.initialBatchSize.toNat := by
  have chosen : (create m settings clock).batchSize =
    if settings.initialBatchSize ≤ 1 then 1 else settings.initialBatchSize := rfl
  rw [chosen]
  split
  · rename_i small
    have small := UInt32.le_iff_toNat_le.1 small
    exact (Nat.max_eq_left small).symm
  · rename_i large
    rw [UInt32.le_iff_toNat_le] at large
    exact (Nat.max_eq_right (Nat.le_of_not_le large)).symm

/-- A session with the size that its fast batches lead to. Its next call doubles the size up to the
limit if it runs a fast batch, and keeps it if not; if execution may go on after it, it completed
and counted a whole batch and the instruction that leaves a breakpoint. No operation makes batches
smaller, and the rate changes only by a batch that ran in full while time passed. -/
theorem batches_adapt {listing : Listing} {memorySize : Nat} {settings : StepSettings}
    {clock : Clock} {ops : List Operation} {s : Session Machine}
    (performed : Performed (create (Machine.create listing memorySize) settings clock) ops s) :
    s.batchSize.toNat = min (2 ^ 32 - 1) (max 1 settings.initialBatchSize.toNat *
        2 ^ fastBatches (create (Machine.create listing memorySize) settings clock) ops) ∧
      1 ≤ s.batchSize.toNat ∧
      (∀ more t, Performed s more t → s.batchSize ≤ t.batchSize) ∧
      s.stepMany.2.batchSize.toNat =
        (if s.fast then min (2 * s.batchSize.toNat) (2 ^ 32 - 1) else s.batchSize.toNat) ∧
      (s.stepMany.1 = .ok true →
        (∀ x ∈ s.attempts .stepMany, x.completed = true) ∧
        (s.attempts .stepMany).length = s.batchSize.toNat + s.leaving ∧
        s.stepMany.2.instructionCount =
          s.instructionCount + (s.batchSize.toNat + s.leaving)) ∧
      ∀ o, (s.apply o).rate ≠ s.rate → s.callsBatch o = true ∧
        ∃ batch, s.batch? = some batch ∧ batch.executed = s.batchSize ∧ 0 < batch.elapsed := by
  have size := performed.toNat_batchSize
  rw [toNat_batchSize_create] at size
  have reached : Reachable s := ⟨listing, memorySize, settings, clock, performed.driven⟩
  have positive : 1 ≤ s.batchSize.toNat := by
    have factor := Nat.two_pow_pos
      (fastBatches (create (Machine.create listing memorySize) settings clock) ops)
    have product := Nat.mul_le_mul (Nat.le_max_left 1 settings.initialBatchSize.toNat) factor
    omega
  refine ⟨size, positive, fun _ _ more => more.batchSize_le, ?_, ?_, fun _ => rate_apply⟩
  · rw [batchSize_stepMany]
    split
    · exact toNat_doubled s.batchSize
    · rfl
  · intro goesOn
    have positive : s.batchSize ≠ 0 := by
      intro zero
      rw [zero] at positive
      cases positive
    obtain ⟨completed, whole⟩ := attempts_of_goesOn reached.mirrored positive goesOn
    exact ⟨completed, whole, count_of_goesOn reached.mirrored goesOn⟩

/-- Batches are asked to be empty and have one instruction, then two. The call begins on a
breakpoint, so that it executes three. -/
theorem batches_adapt_from_a_breakpoint :
    let ops := [(0x10, Op.nop), (0x11, .nop), (0x12, .nop), (0x13, .nop), (0x14, .nop)]
    let start := create (Machine.create (.ofOps ops) 16) { initialBatchSize := 0 } {}
    let made := [Operation.stepMany, .addBreakpoint 0x11 {}]
    let s := (start.apply .stepMany).apply (.addBreakpoint 0x11 {})
    (Performed start made s ∧ s.fast = true ∧ s.stepMany.1 = .ok true) ∧
      s.batchSize.toNat = min (2 ^ 32 - 1) (max 1 0 * 2 ^ start.fastBatches made) ∧
      start.fastBatches made = 1 ∧
      (∀ more t, Performed s more t → s.batchSize ≤ t.batchSize) ∧
      s.stepMany.2.batchSize.toNat = min (2 * s.batchSize.toNat) (2 ^ 32 - 1) ∧
      (s.attempts .stepMany).length = 2 + 1 ∧ s.stepMany.2.instructionCount = 1 + (2 + 1) ∧
      ∀ o, (s.apply o).rate ≠ s.rate → s.callsBatch o = true ∧
        ∃ batch, s.batch? = some batch ∧ batch.executed = 2 ∧ 0 < batch.elapsed := by
  intro ops start made s
  have performed : Performed start made s :=
    ((Performed.refl start).operation .stepMany).operation (.addBreakpoint 0x11 {})
  have isFast : s.fast = true := by decide
  have goesOn : s.stepMany.1 = .ok true := by decide
  have two : s.batchSize = 2 := by decide
  have one : s.instructionCount = 1 := by decide
  have leaves : s.leaving = 1 := by decide
  obtain ⟨size, -, grows, doubles, whole, adapts⟩ := batches_adapt performed
  obtain ⟨-, executed, counted⟩ := whole goesOn
  rw [two, leaves] at executed
  rw [one, two, leaves] at counted
  rw [isFast] at doubles
  rw [two] at adapts
  exact ⟨⟨performed, isFast, goesOn⟩, size, by decide, grows, doubles, executed, counted, adapts⟩

end GuestDebugger.Session
