import GuestDebugger.Engine.Basic

/-! # States of a session

Whether the guest is running, and if not, why it last stopped. -/

namespace GuestDebugger

/-- What is told to the user about an engine that did not finish. -/
def Halt.message : Halt → String
  | error e => e.message
  | crash c => c.message

/-- Why execution stopped. -/
inductive StopReason where
  /-- A breakpoint was reached. -/
  | breakpoint (address : Address)
  /-- The guest ended. -/
  | exited (code : Int32)
  /-- An instruction failed or the engine crashed. -/
  | fault (cause : Halt)
  /-- The user asked for it. -/
  | paused
deriving DecidableEq, Repr

/-- What is told to the user about a stop. -/
def StopReason.message : StopReason → String
  | breakpoint address => "breakpoint at " ++ address.text
  | exited code => "exited with code " ++ toString code.toInt
  | fault cause => "fault: " ++ cause.message
  | paused => "paused"

/-- Whether the guest is running. -/
inductive RunState where
  /-- Nothing was executed yet. -/
  | idle
  /-- Single instructions are executed. -/
  | singleStepping
  /-- The guest runs in batches. -/
  | running
  /-- The guest stopped. -/
  | stopped (reason : StopReason)
deriving DecidableEq, Repr

namespace RunState

/-- Whether the guest runs in batches. -/
def isRunning : RunState → Bool
  | running => true
  | _ => false

/-- Whether the guest ended. -/
def isExited : RunState → Bool
  | stopped (.exited _) => true
  | _ => false

/-- Why the guest stopped, if it did. -/
def stopReason? : RunState → Option StopReason
  | stopped reason => some reason
  | _ => none

end RunState

end GuestDebugger
