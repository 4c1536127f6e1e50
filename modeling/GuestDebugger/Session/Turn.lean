import GuestDebugger.Session.Basic

/-! # Turns

A running guest is executed in turns of one batch each. Between turns a stop may be requested
through a flag. A crash of the engine ends in a fault like any other failure. -/

namespace GuestDebugger

/-- A request to stop that waits to be seen. -/
structure StopFlag where
  /-- Whether a stop is requested. -/
  requested : Bool := false
deriving DecidableEq, Repr, Inhabited

/-- Requests a stop. -/
def StopFlag.request (_ : StopFlag) : StopFlag := ⟨true⟩

/-- Tells whether a stop was requested, and clears the request. -/
def StopFlag.take (f : StopFlag) : Bool × StopFlag := (f.requested, ⟨false⟩)

/-- The outcome of a turn. -/
inductive Turn where
  /-- The guest was not running, and nothing was executed. -/
  | idle
  /-- The guest is still running. -/
  | goesOn
  /-- The guest stopped. -/
  | stopped (reason : StopReason)
deriving DecidableEq, Repr

namespace Session

variable {ε : Type} [Engine ε]

/-- The outcome of a turn after which the guest may be stopped. -/
def stoppedTurn (s : Session ε) : Turn :=
  match s.state.stopReason? with
  | some reason => .stopped reason
  | none => .idle

/-- Executes at most one batch. -/
def runTurn (s : Session ε) : Turn × Session ε :=
  if s.state.isRunning then
    match s.stepMany with
    | (.ok true, s) => (.goesOn, s)
    | (.ok false, s) => (s.stoppedTurn, s)
    | (.error c, s) =>
      let s := s.stop (.fault (.crash c))
      (s.stoppedTurn, s)
  else (.idle, s)

/-- Executes one instruction. Gives whether execution may go on. -/
def runStep (s : Session ε) : Bool × Session ε :=
  match s.step with
  | (.ok goesOn, s) => (goesOn, s)
  | (.error c, s) => (false, s.stop (.fault (.crash c)))

/-- What runs besides the guest: the session, the stop flag, and a state of the caller's own. -/
structure Run (ε σ : Type) where
  /-- The session. -/
  session : Session ε
  /-- The stop flag. -/
  flag : StopFlag
  /-- The state of the caller. -/
  caller : σ

/-- Repeats turns until the guest stops, looking at the stop flag before each. After every turn
that leaves the guest running, `between` runs. There is no result if `fuel` turns do not
suffice. -/
def runUntilStopped {σ : Type} (between : Run ε σ → Run ε σ) :
    (fuel : Nat) → Run ε σ → Option (Option StopReason × Run ε σ)
  | 0, _ => none
  | fuel + 1, r =>
    let (requested, flag) := r.flag.take
    let s := if requested then r.session.stopRunning else r.session
    match s.runTurn with
    | (.goesOn, s) => runUntilStopped between fuel (between { r with session := s, flag })
    | (.stopped reason, s) => some (some reason, { r with session := s, flag })
    | (.idle, s) => some (s.state.stopReason?, { r with session := s, flag })

end Session

end GuestDebugger
