import GuestDebugger.Adapter.Service
import Mathlib.Logic.Relation

/-! # Interleavings

The request loop and the worker take turns in any order, one atomic action at a time. The request
loop begins with a request once it is done with the one before. Letting the worker proceed only
where an action has to wait for it is one of the orders. -/

namespace GuestDebugger.Adapter

/-- The adapter between two atomic actions. -/
structure Moment where
  /-- The server. -/
  server : Server
  /-- What the request loop still has to do. -/
  pending : List Action := []

/-- What may happen next. -/
inductive Move where
  /-- The request loop begins to handle a request. -/
  | accepts (around : Surroundings) (r : Request)
  /-- The request loop begins to end its service. -/
  | finishes
  /-- The request loop carries out an action. -/
  | performs
  /-- The worker carries out an action. -/
  | works

/-- Whether a move begins to handle a request of some name. -/
def Move.AsksFor (command : String) : Move → Prop
  | accepts _ r => r.command = command
  | _ => False

instance (command : String) : DecidablePred (Move.AsksFor command)
  | .accepts _ r => inferInstanceAs (Decidable (r.command = command))
  | .finishes | .performs | .works => inferInstanceAs (Decidable False)

namespace Moment

/-- The next action of the request loop, if it need not wait for the worker. -/
def perform? (s : Server) : List Action → Option Moment
  | [] => none
  | .release :: rest => if s.atRest then some ⟨(s.perform .release).1, rest⟩ else none
  | action :: rest =>
    let (s, more) := s.perform action
    some ⟨s, more ++ rest⟩

/-- The moment after a move, if it can be made. -/
def move? (m : Moment) : Move → Option Moment
  | .accepts around r =>
    if m.pending.isEmpty then
      let (s, actions) := r.accept around.files around.clock m.server
      some ⟨s, actions⟩
    else none
  | .finishes => if m.pending.isEmpty then some ⟨m.server, m.server.shutdownActions⟩ else none
  | .performs => perform? m.server m.pending
  | .works => m.server.workerStep?.map (⟨·, m.pending⟩)

/-- A run of moves of some kind. -/
abbrev Runs (allowed : Move → Prop) : Moment → Moment → Prop :=
  Relation.ReflTransGen fun m n => ∃ move, allowed move ∧ m.move? move = some n

theorem perform?_eq_some {s : Server} {actions : List Action} {n : Moment}
    (made : perform? s actions = some n) :
    ∃ action rest, actions = action :: rest ∧
      n = ⟨(s.perform action).1, (s.perform action).2 ++ rest⟩ ∧
      (action = .release → s.atRest = true) := by
  cases actions with
  | nil => cases made
  | cons action rest =>
      refine ⟨action, rest, rfl, ?_⟩
      cases action with
      | release =>
          simp only [perform?] at made
          split at made
          · rename_i rests
            cases made
            exact ⟨rfl, fun _ => rests⟩
          · cases made
      | _ =>
          cases made
          exact ⟨rfl, nofun⟩

/-- The moment after moves in a given order, if they can be made. -/
def moves? (m : Moment) : List Move → Option Moment
  | [] => some m
  | move :: rest => (m.move? move).bind (·.moves? rest)

theorem moves?_append (m : Moment) (first second : List Move) :
    m.moves? (first ++ second) = (m.moves? first).bind (·.moves? second) := by
  induction first generalizing m with
  | nil => rfl
  | cons move rest ih =>
      simp only [List.cons_append, moves?, Option.bind_assoc]
      exact congrArg _ (funext ih)

variable {allowed : Move → Prop}

theorem runs_of_moves? {moves : List Move} {m n : Moment} (all : ∀ move ∈ moves, allowed move)
    (made : m.moves? moves = some n) : Runs allowed m n := by
  induction moves generalizing m with
  | nil =>
      cases made
      exact .refl
  | cons move rest ih =>
      obtain ⟨between, first, others⟩ := Option.bind_eq_some_iff.1 made
      have run := ih (fun move mem => all move (List.mem_cons_of_mem _ mem)) others
      exact .head ⟨move, all move List.mem_cons_self, first⟩ run

/-! ### One order of the moves -/

theorem runs_runWorkerUntil (works : allowed .works) {done : Server → Bool} {fuel : Nat}
    {s t : Server} (pending : List Action) (ran : s.runWorkerUntil done fuel = some t) :
    Runs allowed ⟨s, pending⟩ ⟨t, pending⟩ := by
  induction fuel generalizing s with
  | zero => cases ran
  | succ fuel ih =>
      simp only [Server.runWorkerUntil] at ran
      split at ran
      · cases ran
        exact .refl
      · split at ran
        · cases ran
          exact .refl
        · rename_i u worked
          exact .head ⟨.works, works, by simp [move?, worked]⟩ (ih ran)

/-- A worker that proceeds until it is at rest is at rest then. -/
theorem atRest_runWorkerUntil {fuel : Nat} {s t : Server}
    (ran : s.runWorkerUntil Server.atRest fuel = some t) : t.atRest = true := by
  induction fuel generalizing s with
  | zero => cases ran
  | succ fuel ih =>
      simp only [Server.runWorkerUntil] at ran
      split at ran
      · rename_i rests
        cases ran
        exact rests
      · split at ran
        · rename_i stuck
          cases ran
          simp [Server.atRest, stuck]
        · exact ih ran

theorem runs_performAll (performs : allowed .performs) (works : allowed .works) {fuel : Nat}
    {actions : List Action} {s t : Server} (done : s.performAll fuel actions = some t) :
    Runs allowed ⟨s, actions⟩ ⟨t, []⟩ := by
  induction fuel generalizing s actions with
  | zero =>
      cases actions with
      | nil =>
          cases done
          exact .refl
      | cons => cases done
  | succ fuel ih =>
      cases actions with
      | nil =>
          cases done
          exact .refl
      | cons action rest =>
          cases action with
          | release =>
              obtain ⟨u, rested, done⟩ := Option.bind_eq_some_iff.1 done
              have rests := atRest_runWorkerUntil rested
              have released : (⟨u, .release :: rest⟩ : Moment).move? .performs =
                  some ⟨(u.perform .release).1, rest⟩ := by simp [move?, perform?, rests]
              exact .trans (runs_runWorkerUntil works _ rested)
                (.head ⟨.performs, performs, released⟩ (ih done))
          | _ => exact .head ⟨.performs, performs, rfl⟩ (ih done)

end Moment

end GuestDebugger.Adapter
