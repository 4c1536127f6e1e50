import GuestDebugger.Proofs.Adapter.Consistency
import GuestDebugger.Proofs.Session.BreakSet

/-! # Sessions of the adapter

Whatever the client asks for and however the request loop and the worker take turns, the session of
a launched program is one that operations on sessions lead to. So what holds of every reachable
session holds of the sessions of the adapter too. -/

namespace GuestDebugger.Adapter

/-- Only reachable sessions are in use. -/
def Server.InReach (s : Server) : Prop := ∀ p, s.program = some p → p.session.Reachable

namespace Request

theorem reachable_of_start {files : Files} {clock : Clock} {settings : LaunchSettings}
    {session : Session Machine} (started : Launch.start files clock settings = .ok session) :
    session.Reachable := by
  obtain ⟨listing, -, started⟩ := Except.exists_ok_of_bind started
  obtain ⟨labels, -, started⟩ := Except.exists_ok_of_bind started
  cases started
  exact (Session.reachable_create listing _ settings.stepping clock).operation (.setLabels labels)

/-- Breakpoints are replaced by removing some one by one, and then adding others. -/
theorem reachable_replaceBreakpoints {session : Session Machine} (reached : session.Reachable)
    (old new : List Address) : (replaceBreakpoints session old new).Reachable := by
  refine replaceBreakpoints_keeps reached ?_ ?_ old new
  · intro t a reached
    exact reached.operation (.removeBreakpoint a)
  · intro t a reached
    exact reached.operation (.addBreakpoint a {})

theorem Accepted.inReach {r : Request} {s t : Server} {actions : List Action}
    (accepted : r.Accepted s t actions) (before : s.InReach) : t.InReach := by
  intro q after
  cases accepted with
  | launched _ _ _ _ started =>
      cases after
      obtain ⟨files, clock, settings, started⟩ := started
      exact reachable_of_start started
  | replaced launched =>
      cases after
      exact reachable_replaceBreakpoints (before _ launched) _ _
  | @toggled p launched _ a =>
      cases after
      exact (before p launched).operation (.toggleBreakpoint a)
  | @ranTo p launched _ a =>
      cases after
      exact (before p launched).operation (.runTo a)
  | @resumed p launched =>
      cases after
      exact (before p launched).operation .startRunning
  | _ => exact before q after

end Request

namespace Server

variable {s : Server}

theorem InReach.perform (before : s.InReach) (action : Action) : (s.perform action).1.InReach := by
  intro q after
  cases action with
  | send => exact before q after
  | release => cases after
  | startRunning =>
      obtain ⟨p, launched, rfl⟩ := Option.map_eq_some_iff.1 after
      exact (before p launched).operation .startRunning
  | stopRunning =>
      obtain ⟨p, launched, rfl⟩ := Option.map_eq_some_iff.1 after
      exact (before p launched).operation .stopRunning
  | clearStop | requestStop | wake =>
      obtain ⟨p, launched, rfl⟩ := Option.map_eq_some_iff.1 after
      exact before p launched
  | singleStep =>
      simp only [Server.perform] at after
      split at after
      · rename_i absent
        rw [absent] at after
        cases after
      · rename_i p launched
        rw [sendOutput_eq] at after
        cases after
        exact ((before p launched).operation .runStep).operation .takeOutput

/-- A turn is a turn of the session, or a stop, and its output is taken. -/
theorem InReach.endTurn {p : Program} (reached : p.session.Reachable) (requested : Bool) :
    (s.endTurn requested p).InReach := by
  intro q after
  rw [endTurn_eq] at after
  have ended := turnEnded_restOfTurn requested p
  generalize restOfTurn requested p = x at ended after
  cases ended with
  | idle =>
      cases after
      exact reached.operation .takeOutput
  | paused =>
      cases after
      exact (reached.operation .stopRunning).operation .takeOutput
  | goesOn | stopped =>
      cases after
      exact (reached.operation .runTurn).operation .takeOutput

end Server

theorem Instant.Made.inReach {i k : Instant} {move : Move} (made : Made i move k)
    (before : i.server.InReach) : k.server.InReach := by
  cases made with
  | accepted _ accepted => exact accepted.inReach before
  | finished => exact before
  | performed => exact before.perform _
  | ended launched => exact .endTurn (before _ launched) _
  | woken launched | looked launched | reported launched | told launched =>
      intro q after
      cases after
      have reached := before _ launched
      exact reached

/-- The sessions that occur in a history are reachable by operations on sessions. -/
theorem History.inReach {i k : Instant} {past : List Happening} (history : History i past k)
    (start : i.server.InReach) : k.server.InReach := by
  induction history with
  | nothing => exact start
  | next made _ ih => exact ih ((Instant.made_of_move? made).inReach start)

end GuestDebugger.Adapter
