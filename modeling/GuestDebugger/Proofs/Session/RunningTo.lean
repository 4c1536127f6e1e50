import GuestDebugger.Proofs.Session.BreakpointStops
import GuestDebugger.Proofs.Session.Counting
import GuestDebugger.Proofs.Session.SingleStepping

/-! # Running to an address

A guest that was set running to an address stops the first time that it gets there, before the
instruction at it is attempted. The entry that stops it is for one hit, so it is gone then; if the
guest stops elsewhere before, the entry stays.

## Implementation notes

That nothing is attempted at the address is told by the log of a watched machine. The engine keeps
to it inside a batch, since the address is in its break set. Between batches the session does: it
stops a guest that stands on an enabled entry, so the step by which a batch leaves a breakpoint is
not made at the address either. -/

namespace GuestDebugger.Session

/-! ### Attempts of a turn -/

/-- A session whose guest attempted nothing at an address. If an instruction failed, the guest is
not there either. -/
structure Spares (a : Address) (w : Session Watched) : Prop where
  log : ∀ x ∈ w.engine.log, x.address ≠ a
  fault : ∀ cause, w.state = .stopped (.fault cause) → w.pc ≠ a

namespace Spares

variable {a : Address} {w u : Session Watched}

/-- Judging attempts nothing, and does not make a fault. -/
theorem evaluateStop (running : u.state = .running) (log : ∀ x ∈ u.engine.log, x.address ≠ a) :
    Spares a u.evaluateStop.2 := by
  refine ⟨(Recorded.judged u).1 ▸ log, ?_⟩
  intro cause fault
  simp only [Session.evaluateStop] at fault
  split at fault
  · cases fault
  · split at fault
    · split at fault
      · cases running.symm.trans fault
      · cases fault
    · cases running.symm.trans fault

theorem halted {α : Type} {ran : Ran Watched α} {halt : Halt} (avoids : Watched.Avoids a ran)
    (failed : ran.outcome = .error halt) : Spares a ((u.afterRun ran).halted halt).2 := by
  cases halt with
  | error e => exact ⟨avoids.log, fun _ _ => avoids.failed _ failed⟩
  | crash c => exact ⟨avoids.log, fun _ _ => avoids.failed _ failed⟩

theorem runBatch (running : u.state = .running) (stop : u.engine.machine.hasBreak a = true)
    (log : ∀ x ∈ u.engine.log, x.address ≠ a) : Spares a u.runBatch.2 := by
  have avoids : Watched.Avoids a (Engine.stepMany u.engine u.host.readClock.2 u.batchSize) :=
    Watched.avoids_runBatch stop log 0 _ _
  simp only [Session.runBatch]
  split
  · rename_i failed
    exact halted avoids failed
  · exact evaluateStop running avoids.log

/-- A batch attempts nothing at an address that the engine stops at, if it does not begin there. -/
theorem stepMany (running : w.state = .running) (away : w.pc ≠ a)
    (stop : w.engine.machine.hasBreak a = true) (log : ∀ x ∈ w.engine.log, x.address ≠ a) :
    Spares a w.stepMany.2 := by
  cases ended : w.exitCode with
  | some code =>
      rw [stepMany_of_exited ended]
      exact ⟨log, nofun⟩
  | none =>
      cases active : w.breakpoints.isActive w.pc with
      | false =>
          rw [stepMany_of_inactive ended active]
          exact runBatch running stop log
      | true =>
          have avoids : Watched.Avoids a (Engine.step w.engine w.host) :=
            Watched.avoids_step away log w.host
          have breaks : (Engine.step w.engine w.host).engine.machine.breaks =
            w.engine.machine.breaks := w.engine.breaks_step w.host
          rw [stepMany_of_active ended active]
          split
          · rename_i failed
            exact halted avoids failed
          · simp only [runRest]
            split
            · exact evaluateStop running avoids.log
            · refine runBatch running ?_ avoids.log
              rw [Machine.hasBreak, countInstructions, afterRun]
              dsimp only
              rw [breaks]
              exact stop

end Spares

/-- The session after a turn is the one after its batch. -/
theorem runTurn_of_answered {ε : Type} [Engine ε] {s : Session ε} {goesOn : Bool}
    (running : s.state = .running) (answer : s.stepMany.1 = .ok goesOn) :
    s.runTurn.2 = s.stepMany.2 := by
  have isRunning : s.state.isRunning = true := by rw [running]; rfl
  rw [runTurn, if_pos isRunning]
  generalize s.stepMany = x at answer ⊢
  obtain ⟨_, t⟩ := x
  cases answer
  cases goesOn <;> rfl

theorem Spares.runTurn {a : Address} {w : Session Watched} (running : w.state = .running)
    (away : w.pc ≠ a) (stop : w.engine.machine.hasBreak a = true)
    (log : ∀ x ∈ w.engine.log, x.address ≠ a) : Spares a w.runTurn.2 := by
  obtain ⟨goesOn, answer⟩ := (judged_stepMany (w.map Watched.machine)).answered
  rw [map_stepMany Watched.hom_machine] at answer
  rw [runTurn_of_answered running (congrArg Prod.fst answer)]
  exact .stepMany running away stop log

/-! ### On the way -/

/-- A guest that runs to an address and has not got there yet. -/
structure Heading (a : Address) (s : Session Machine) : Prop where
  running : s.state = .running
  away : s.pc ≠ a
  armed : s.breakpoints.get? a = some ⟨a, false, { oneShot := true }⟩
  mirrored : s.Mirrored

/-- What the outcome of a turn tells of a guest that was set running to an address. -/
structure ReportsArrival (a : Address) (turn : Turn) (t : Session Machine) : Prop where
  /-- After a stop there the entry is gone. -/
  disarmed : turn = .stopped (.breakpoint a) → t.breakpoints.get? a = none ∧ a ∉ t.engine.breaks
  /-- Otherwise it is still there. -/
  armed : turn ≠ .stopped (.breakpoint a) →
    t.breakpoints.get? a = some ⟨a, false, { oneShot := true }⟩ ∧ a ∈ t.engine.breaks
  /-- The guest stops there as soon as it gets there, unless it ends. -/
  arrived : turn = .stopped (.breakpoint a) ↔ t.pc = a ∧ t.exitCode = none

theorem Mirrored.mem_of_armed {t : Session Machine} {a : Address} {flags : BreakpointFlags}
    (mirrored : t.Mirrored) (armed : t.breakpoints.get? a = some ⟨a, false, flags⟩) :
    a ∈ t.engine.breaks := (mirrored.mem_iff a).2 ⟨_, armed, rfl⟩

namespace Heading

variable {a : Address} {s : Session Machine}

theorem goesOn (heading : Heading a s) (turn : s.runTurn.1 = .goesOn) :
    Heading a s.runTurn.2 := by
  have judged := judged_stepMany s
  rcases runTurn_eq heading.running with ⟨batch, -⟩ | ⟨-, stops⟩
  · have mirrored := heading.mirrored.of_judged judged
    rw [batch] at judged mirrored
    have same := judged.breakpoints_of_not_hits fun a hits => (by cases hits.1)
    have armed := (congrArg (·.get? a) same).trans heading.armed
    have inactive := (judged.of_goesOn rfl).2
    refine ⟨?_, ?_, armed, mirrored⟩
    · rcases runTurn_of_running heading.running with ⟨-, running⟩ | ⟨reason, stops, -⟩
      · exact running
      · cases turn.symm.trans stops
    · -- The session would not go on at the enabled entry.
      intro here
      have active := Breakpoints.isActive_iff.2 ⟨_, armed, rfl⟩
      dsimp only at inactive
      rw [here, active] at inactive
      cases inactive
  · exact absurd (stops.symm.trans turn) (stoppedTurn_ne_goesOn _)

/-- After every turn the entry is gone or there, whichever it has to be. -/
theorem reports (heading : Heading a s)
    (fault : ∀ cause, s.runTurn.2.state = .stopped (.fault cause) → s.runTurn.2.pc ≠ a) :
    ReportsArrival a s.runTurn.1 s.runTurn.2 := by
  rcases runTurn_of_running heading.running with ⟨turn, -⟩ | ⟨reason, turn, state⟩
  · have next := heading.goesOn turn
    rw [turn]
    refine ⟨nofun, fun _ => ⟨next.armed, next.mirrored.mem_of_armed next.armed⟩, nofun, ?_⟩
    rintro ⟨here, -⟩
    exact absurd here next.away
  · have judged := judged_stepMany s
    have mirrored := heading.mirrored.of_judged judged
    rcases runTurn_eq heading.running with ⟨-, goesOn⟩ | ⟨batch, -⟩
    · cases turn.symm.trans goesOn
    rw [batch] at judged mirrored
    have stopped : ∀ {x}, s.runTurn.2.state = .stopped (.breakpoint x) →
        StoppedAt s s.runTurn.2 x := fun state => judged.stoppedAt ⟨rfl, state⟩
    rw [turn]
    by_cases arrived : reason = .breakpoint a
    · rw [arrived] at state ⊢
      obtain ⟨pc, alive, ⟨b, entry, -, gone⟩, -⟩ := stopped state
      cases heading.armed.symm.trans entry
      refine ⟨fun _ => ⟨gone, ?_⟩, absurd rfl, fun _ => ⟨pc, alive⟩, fun _ => rfl⟩
      intro mem
      obtain ⟨b, entry, -⟩ := (mirrored.mem_iff a).1 mem
      cases gone.symm.trans entry
    · have elsewhere : Turn.stopped reason ≠ .stopped (.breakpoint a) := by
        intro eq
        cases eq
        exact arrived rfl
      have armed : s.runTurn.2.breakpoints.get? a = some ⟨a, false, { oneShot := true }⟩ := by
        rcases judged.stoppedAt_or_same with ⟨x, ⟨-, hit⟩, there⟩ | ⟨-, same⟩
        · have other : a ≠ x := by
            rintro rfl
            cases state.symm.trans hit
            exact arrived rfl
          exact (there.others a other).trans heading.armed
        · exact (congrArg (·.get? a) same).trans heading.armed
      refine ⟨fun eq => absurd eq elsewhere, fun _ => ⟨armed, mirrored.mem_of_armed armed⟩,
        fun eq => absurd eq elsewhere, ?_⟩
      rintro ⟨here, alive⟩
      rcases judged.of_stops rfl alive with ⟨x, hit⟩ | ⟨cause, failed⟩
      · have there := (stopped hit).pc
        cases here.symm.trans there
        cases state.symm.trans hit
        rfl
      · exact absurd here (fault cause failed)

end Heading

/-- The induction is on the turns: each but the last leaves the guest on its way. -/
theorem Heading.turns {a : Address} {w w' : Session Watched} {n : Nat} {turn : Turn}
    (heading : Heading a (w.map Watched.machine)) (log : ∀ x ∈ w.engine.log, x.address ≠ a)
    (turns : Repeats runTurn .goesOn n w turn w') :
    ReportsArrival a turn (w'.map Watched.machine) ∧ ∀ x ∈ w'.engine.log, x.address ≠ a := by
  have turned : ∀ w : Session Watched, (w.map Watched.machine).runTurn =
    (w.runTurn.1, w.runTurn.2.map Watched.machine) := map_runTurn Watched.hom_machine
  have spares : ∀ {w : Session Watched}, Heading a (w.map Watched.machine) →
      (∀ x ∈ w.engine.log, x.address ≠ a) → Spares a w.runTurn.2 := by
    intro w heading log
    have mem := heading.mirrored.mem_of_armed heading.armed
    exact .runTurn heading.running heading.away (decide_eq_true mem) log
  induction turns with
  | @once w w' turn last =>
      have spared := spares heading log
      have reports := heading.reports
      rw [turned, last] at reports
      rw [last] at spared
      exact ⟨reports spared.fault, spared.log⟩
  | @again n w w₁ w' turn first _ ih =>
      have spared := spares heading log
      have next := heading.goesOn
      rw [turned, first] at next
      rw [first] at spared
      exact ih (next rfl) spared.log

/-! ### Arriving -/

theorem heading_runTo {s : Session Machine} {a : Address} (mirrored : s.Mirrored)
    (alive : s.exitCode = none) (away : s.pc ≠ a) : Heading a (s.runTo a) where
  running := by
    have notHere : (s.exitCode.isNone && s.pc == a) = false := by simp [away]
    have alive' : (s.addBreakpoint a { oneShot := true }).exitCode = none := alive
    rw [runTo, notHere]
    simp only [Bool.false_eq_true, if_false, startRunning, alive']
  away := by
    have pc : (s.runTo a).pc = s.pc := by
      simp only [runTo, startRunning]
      split
      · rfl
      · split <;> rfl
    rw [pc]
    exact away
  armed := by
    rw [get?_runTo, if_pos ⟨rfl, fun here => away here.2⟩]
  mirrored := mirrored.apply (.runTo a)

theorem runTo_here {s : Session Machine} (alive : s.exitCode = none) :
    s.runTo s.pc = s.stop (.breakpoint s.pc) := by
  rw [runTo, alive]
  simp

theorem log_runTo (w : Session Watched) (a : Address) : (w.runTo a).engine.log = w.engine.log := by
  simp only [runTo, startRunning]
  split
  · rfl
  · split <;> rfl

/-- A guest that was set running to an address stops the first time it gets there, whatever turns
that takes: no instruction there is attempted, and after the stop neither the table nor the break
set has the address. If the guest stops elsewhere, or goes on, the entry for one hit is still there
and enabled. If the guest is at the address already, it stops in place, and nothing else happens. -/
theorem runTo_stops_at_first_arrival {s : Session Machine} (reached : Reachable s)
    (alive : s.exitCode = none) (a : Address) :
    (s.pc = a → s.runTo a = s.stop (.breakpoint a)) ∧
      (s.pc ≠ a → (s.runTo a).state = .running ∧
        ∀ n turn t, Repeats runTurn .goesOn n (s.runTo a) turn t →
          ReportsArrival a turn t ∧
          ∃ w, Repeats runTurn .goesOn n (s.watched.runTo a) turn w ∧
            w.map Watched.machine = t ∧ ∀ x ∈ w.engine.log, x.address ≠ a) := by
  constructor
  · rintro rfl
    exact runTo_here alive
  · intro away
    have heading := heading_runTo reached.mirrored alive away
    refine ⟨heading.running, ?_⟩
    intro n turn t turns
    have erased : (s.watched.runTo a).map Watched.machine = s.runTo a :=
      (map_runTo Watched.hom_machine s.watched a).symm
    have fresh : ∀ x ∈ (s.watched.runTo a).engine.log, x.address ≠ a := by
      rw [log_runTo]
      nofun
    rw [← erased] at turns heading
    obtain ⟨w, watched, rfl⟩ := turns.of_map (map_runTurn Watched.hom_machine)
    obtain ⟨reports, log⟩ := heading.turns fresh watched
    exact ⟨reports, w, watched, rfl, log⟩

/-- A disabled breakpoint at the address is replaced and gone after the stop. -/
theorem runTo_stops_at_first_arrival_over_disabled :
    let listing := Listing.ofOps [(0x10, .nop), (0x11, .write "a"), (0x12, .jump 0x10)]
    let start := create (Machine.create listing 16) {} {}
    let s := (start.apply (.addBreakpoint 0x12 {})).apply (.toggleBreakpoint 0x12)
    let t := (s.runTo 0x12).runTurn.2
    Reachable s ∧ s.exitCode = none ∧
      s.pc = 0x10 ∧ s.runTo 0x10 = s.stop (.breakpoint 0x10) ∧
      s.pc ≠ 0x12 ∧ (s.runTo 0x12).state = .running ∧
      Repeats runTurn .goesOn 1 (s.runTo 0x12) (.stopped (.breakpoint 0x12)) t ∧
      ReportsArrival 0x12 (.stopped (.breakpoint 0x12)) t ∧
      ∃ w, Repeats runTurn .goesOn 1 (s.watched.runTo 0x12) (.stopped (.breakpoint 0x12)) w ∧
        w.map Watched.machine = t ∧ ∀ x ∈ w.engine.log, x.address ≠ 0x12 := by
  intro listing start s t
  have reached : Reachable s := ((reachable_create _ _ _ _).operation _).operation _
  have alive : s.exitCode = none := rfl
  have here : s.pc = 0x10 := by decide
  have away : s.pc ≠ 0x12 := by decide
  have stops : (s.runTo 0x12).runTurn.1 = .stopped (.breakpoint 0x12) := by decide
  have last : (s.runTo 0x12).runTurn = (.stopped (.breakpoint 0x12), t) := by rw [← stops]
  have turn : Repeats runTurn .goesOn 1 (s.runTo 0x12) (.stopped (.breakpoint 0x12)) t :=
    .once last
  obtain ⟨running, arrives⟩ := (runTo_stops_at_first_arrival reached alive 0x12).2 away
  exact ⟨reached, alive, here, (runTo_stops_at_first_arrival reached alive 0x10).1 here, away,
    running, turn, arrives _ _ _ turn⟩

end GuestDebugger.Session
