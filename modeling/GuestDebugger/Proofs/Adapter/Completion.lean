import GuestDebugger.Adapter.Service
import GuestDebugger.Proofs.Adapter.Requests
import GuestDebugger.Proofs.Session.Execution

/-! # What is begun is completed

The request loop waits for the worker only when it gives up a program, and by then the guest is not
running. Such a worker soon comes to rest, so every request is handled to its end, and how many
steps may be taken makes no difference once they suffice. Messages on the wire stay there. -/

namespace GuestDebugger.Adapter

/-- A computation has a result as soon as it may take enough steps. -/
def Settles {α : Type} (run : Nat → Option α) (x : α) : Prop :=
  ∃ least, ∀ fuel, least ≤ fuel → run fuel = some x

namespace Settles

variable {α β : Type} {run : Nat → Option α} {x y : α}

theorem unique (first : Settles run x) (second : Settles run y) : x = y := by
  obtain ⟨n, first⟩ := first
  obtain ⟨m, second⟩ := second
  apply Option.some.inj
  calc
    some x = run (max n m) := (first _ (Nat.le_max_left n m)).symm
    _ = some y := second _ (Nat.le_max_right n m)

theorem map (settles : Settles run x) (f : α → β) :
    Settles (fun fuel => (run fuel).map f) (f x) := by
  obtain ⟨least, settles⟩ := settles
  refine ⟨least, fun fuel enough => ?_⟩
  simp only [settles fuel enough, Option.map_some]

theorem succ (settles : Settles run x) : Settles (fun fuel => run (fuel + 1)) x := by
  obtain ⟨least, settles⟩ := settles
  exact ⟨least, fun fuel enough => settles (fuel + 1) (by omega)⟩

/-- A first step may be left out of account. -/
theorem of_succ (settles : Settles (fun fuel => run (fuel + 1)) x) : Settles run x := by
  obtain ⟨least, settles⟩ := settles
  refine ⟨least + 1, fun fuel enough => ?_⟩
  obtain ⟨fuel, rfl⟩ : ∃ before, fuel = before + 1 := ⟨fuel - 1, by omega⟩
  exact settles fuel (by omega)

/-- What comes after a computation that has settled. -/
theorem bind {more : α → Nat → Option β} {z : β} (settles : Settles run x)
    (rest : Settles (more x) z) : Settles (fun fuel => (run fuel).bind (more · fuel)) z := by
  obtain ⟨n, settles⟩ := settles
  obtain ⟨m, rest⟩ := rest
  refine ⟨max n m, fun fuel enough => ?_⟩
  simp only [settles fuel (by omega), Option.bind_some, rest fuel (by omega)]

end Settles

/-! ### The worker comes to rest -/

/-- A bound on the actions of a worker that is not woken up and whose guest is not running. -/
def WorkerPhase.remaining : WorkerPhase → Nat
  | waiting => 0
  | turning => 1
  | reporting report => report.length + 1

namespace Server

/-- The same bound for a server. Each wake-up is good for a turn and the way back from it. -/
def remaining (s : Server) : Nat :=
  match s.program with
  | some p => 2 * p.wakes + p.worker.remaining
  | none => 0

/-- No guest is running. -/
def Still (s : Server) : Prop := ∀ p, s.program = some p → p.session.state.isRunning = false

variable {s t u : Server}

theorem workerTurn_of_still {p : Program} (still : p.session.state.isRunning = false) :
    workerTurn p = (.idle, { p with flag := p.flag.take.2 }) := by
  simp [workerTurn, still, Session.runTurn]

theorem workerStep?_of_still (still : s.Still) (worked : s.workerStep? = some t) :
    t.Still ∧ t.remaining < s.remaining := by
  obtain ⟨p, launched, worked⟩ := Option.bind_eq_some_iff.1 worked
  have before : s.remaining = 2 * p.wakes + p.worker.remaining := by simp [remaining, launched]
  have notRunning := still p launched
  rw [before]
  split at worked
  · rename_i waiting
    split at worked
    · cases worked
    · rename_i woken
      cases worked
      refine ⟨fun q eq => ?_, ?_⟩
      · cases eq
        exact notRunning
      · simp only [remaining, WorkerPhase.remaining]
        omega
  · rename_i turning
    rw [workerTurn_of_still notRunning] at worked
    cases worked
    refine ⟨fun q eq => ?_, ?_⟩
    · cases eq
      exact notRunning
    · simp [remaining, WorkerPhase.remaining, phaseAfter, turning]
  · rename_i reporting
    cases worked
    refine ⟨fun q eq => ?_, ?_⟩
    · cases eq
      exact notRunning
    · simp [remaining, WorkerPhase.remaining, reporting]
  · rename_i reporting
    cases worked
    refine ⟨fun q eq => ?_, ?_⟩
    · cases eq
      exact notRunning
    · simp [remaining, WorkerPhase.remaining, reporting]

/-- The worker proceeds until it has nothing to do, and that is how it ends. -/
def Rests (s t : Server) : Prop := Settles (fun fuel => s.runWorkerUntil atRest fuel) t

/-- A worker whose guest is not running comes to rest. -/
theorem exists_rests (still : s.Still) : ∃ t, s.Rests t := by
  suffices bounded : ∃ t, ∀ fuel, s.remaining < fuel → s.runWorkerUntil atRest fuel = some t by
    obtain ⟨t, rests⟩ := bounded
    exact ⟨t, s.remaining + 1, rests⟩
  induction bound : s.remaining using Nat.strongRecOn generalizing s with
  | ind n ih =>
      cases worked : s.workerStep? with
      | none =>
          refine ⟨s, fun fuel enough => ?_⟩
          obtain ⟨fuel, rfl⟩ : ∃ before, fuel = before + 1 := ⟨fuel - 1, by omega⟩
          simp [runWorkerUntil, atRest, worked]
      | some u =>
          obtain ⟨still', less⟩ := workerStep?_of_still still worked
          obtain ⟨t, rests⟩ := ih u.remaining (by omega) still' rfl
          refine ⟨t, fun fuel enough => ?_⟩
          obtain ⟨fuel, rfl⟩ : ∃ before, fuel = before + 1 := ⟨fuel - 1, by omega⟩
          simp only [runWorkerUntil, atRest, worked, Option.isNone_some, Bool.false_eq_true,
            if_false]
          exact rests fuel (by omega)

theorem still_stopRunning (s : Server) : (s.perform .stopRunning).1.Still := by
  intro p eq
  obtain ⟨q, -, rfl⟩ := Option.map_eq_some_iff.1 eq
  exact q.session.isRunning_stopRunning

theorem Still.requestStop (still : s.Still) : (s.perform .requestStop).1.Still := by
  intro p eq
  obtain ⟨q, launched, rfl⟩ := Option.map_eq_some_iff.1 eq
  exact still q launched

/-! ### Actions are carried out -/

/-- Actions are carried out one after the other, and that is how they end. -/
def Performs (s : Server) (actions : List Action) (t : Server) : Prop :=
  Settles (fun fuel => s.performAll fuel actions) t

theorem performs_nil (s : Server) : s.Performs [] s := ⟨0, fun fuel _ => by cases fuel <;> rfl⟩

theorem performs_cons_iff {action : Action} {rest : List Action} (ready : action ≠ .release) :
    s.Performs (action :: rest) t ↔
      (s.perform action).1.Performs ((s.perform action).2 ++ rest) t := by
  have step : ∀ fuel, s.performAll (fuel + 1) (action :: rest) =
      (s.perform action).1.performAll fuel ((s.perform action).2 ++ rest) := by
    intro fuel
    cases action with
    | release => exact absurd rfl ready
    | _ => rfl
  constructor
  · intro performs
    have after := Settles.succ performs
    simpa only [Performs, step] using after
  · intro performs
    refine Settles.of_succ ?_
    simp only [step]
    exact performs

theorem performs_release {rest : List Action} (rests : s.Rests u)
    (performs : (u.perform .release).1.Performs rest t) : s.Performs (.release :: rest) t :=
  .of_succ (Settles.bind (Settles.succ rests) performs)

theorem performs_append_sends {contents : List Content} {rest : List Action}
    (performs : (contents.foldl send s).Performs rest t) :
    s.Performs (contents.map .send ++ rest) t := by
  induction contents generalizing s with
  | nil => exact performs
  | cons content others ih => exact (performs_cons_iff (by simp)).2 (ih performs)

/-- Only messages to send follow from an action. -/
theorem perform_snd (s : Server) (action : Action) :
    ∃ contents : List Content, (s.perform action).2 = contents.map .send := by
  cases action with
  | singleStep =>
      simp only [perform]
      split
      · exact ⟨[], rfl⟩
      · exact ⟨_, rfl⟩
  | _ => exact ⟨[], rfl⟩

/-- Actions that give up nothing are carried out to the end. -/
theorem exists_performs {actions : List Action} (ready : .release ∉ actions) (s : Server) :
    ∃ t, s.Performs actions t := by
  induction actions generalizing s with
  | nil => exact ⟨s, performs_nil s⟩
  | cons action rest ih =>
      simp only [List.mem_cons, not_or] at ready
      obtain ⟨first, others⟩ := ready
      obtain ⟨contents, more⟩ := perform_snd s action
      obtain ⟨t, performs⟩ := ih others (contents.foldl send (s.perform action).1)
      refine ⟨t, (performs_cons_iff (Ne.symm first)).2 ?_⟩
      rw [more]
      exact performs_append_sends performs

theorem exists_performs_shutdownActions (s : Server) : ∃ t, s.Performs s.shutdownActions t := by
  simp only [shutdownActions]
  split
  · obtain ⟨u, rests⟩ := exists_rests (still_stopRunning s).requestStop
    exact ⟨_, (performs_cons_iff (by simp)).2 ((performs_cons_iff (by simp)).2
      (performs_release rests (performs_nil _)))⟩
  · exact ⟨s, performs_nil s⟩

/-- Handling a message comes to this end. -/
def Handles (around : Surroundings) (s : Server) (m : Message) (goesOn : Bool) (t : Server) :
    Prop := Settles (fun fuel => s.handle around fuel m) (goesOn, t)

/-- Ending the use of a program comes to this end. -/
def ShutsDown (s t : Server) : Prop := Settles (fun fuel => s.shutdown fuel) t

theorem exists_shutsDown (s : Server) : ∃ t, s.ShutsDown t := exists_performs_shutdownActions s

theorem handles_of_performs {around : Surroundings} {m : Message} {r : Request}
    (asks : m.request? = some r)
    (performs : (r.accept around.files around.clock s).1.Performs
      (r.accept around.files around.clock s).2 t) : s.Handles around m r.goesOn t := by
  have handled := performs.map (r.goesOn, ·)
  simpa only [Handles, handle, asks] using handled

end Server

namespace Request

variable {r : Request} {s t : Server} {actions : List Action}

theorem release_notMem_afterRunTo (session : Session Machine) :
    .release ∉ afterRunTo session := by
  simp only [afterRunTo]
  split
  · simp
  · simp [resume]

theorem release_notMem_afterConfiguration (p : Program) : .release ∉ afterConfiguration p := by
  simp only [afterConfiguration]
  split <;> simp [resume]

/-- What a request has begun is carried out to the end. -/
theorem Accepted.exists_performs (accepted : Accepted r s t actions) :
    ∃ u, t.Performs actions u := by
  cases accepted with
  | configured =>
      exact Server.exists_performs (by simp [respond, release_notMem_afterConfiguration]) s
  | ranTo => exact Server.exists_performs (by simp [respond, release_notMem_afterRunTo]) _
  | disconnected =>
      obtain ⟨u, performs⟩ :=
        Server.exists_performs_shutdownActions (s.perform (r.respond none)).1
      exact ⟨u, (Server.performs_cons_iff (by simp [respond])).2 performs⟩
  | _ => exact Server.exists_performs (by simp [respond, resume]) _

end Request

namespace Server

theorem exists_handles (around : Surroundings) (s : Server) (m : Message) :
    ∃ goesOn t, s.Handles around m goesOn t := by
  cases asks : m.request? with
  | none =>
      refine ⟨true, s, 0, fun fuel _ => ?_⟩
      simp only [handle, asks]
  | some r =>
      have accepted := Request.accepted_accept around.files around.clock r s
      obtain ⟨t, performs⟩ := accepted.exists_performs
      exact ⟨r.goesOn, t, handles_of_performs asks performs⟩

end Server

end GuestDebugger.Adapter
