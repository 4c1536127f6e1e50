import GuestDebugger.Adapter.Wire
import GuestDebugger.Launch
import GuestDebugger.Session.Turn

/-! # The adapter's server

Two parties share a launched program: the request loop, and a worker that executes turns. Each
proceeds by atomic actions on the shared state: a critical section on the session, an operation on
the stop flag, a wake-up, or a message sent. The worker waits for a wake-up, executes turns until
the guest is no longer running, and reports why it stopped. -/

namespace GuestDebugger.Adapter

/-- What the worker does next. -/
inductive WorkerPhase where
  /-- It waits for a wake-up. -/
  | waiting
  /-- It executes a turn. -/
  | turning
  /-- It sends a report, then waits. -/
  | reporting (report : List Content)

/-- A launched program. -/
structure Program where
  /-- The session. -/
  session : Session Machine
  /-- Requests that the worker stop. -/
  flag : StopFlag := {}
  /-- How many wake-ups the worker has not seen yet. -/
  wakes : Nat := 0
  /-- What the worker does next. -/
  worker : WorkerPhase := .waiting
  /-- Whether execution waits at the entry of the program. -/
  stopOnEntry : Bool

/-- The state of the adapter. -/
structure Server where
  /-- The sending side. -/
  wire : Wire := {}
  /-- The launched program. -/
  program : Option Program := none
  /-- The addresses whose breakpoints the client set as a whole. -/
  owned : AddressSet := ∅

/-- What a request handler still has to do, one atomic action after the other. -/
inductive Action where
  /-- Sends a message. -/
  | send (content : Content)
  /-- Sets the guest running. -/
  | startRunning
  /-- Stops a running guest. -/
  | stopRunning
  /-- Executes one instruction, sends its output and reports. -/
  | singleStep
  /-- Clears a request that the worker stop. -/
  | clearStop
  /-- Requests that the worker stop. -/
  | requestStop
  /-- Wakes the worker up. -/
  | wake
  /-- Gives up the program, once its worker is at rest. -/
  | release

/-- The number of the one thread of a guest. -/
def threadId : Nat := 1

/-- The reason of a stop as the client knows it. -/
def stopKind : StopReason → String
  | .breakpoint _ => "breakpoint"
  | .exited _ => "exited"
  | .fault _ => "exception"
  | .paused => "pause"

/-- Tells the client that the guest stopped. -/
def stoppedEvent (reason : String) (text : Option String) : Content :=
  .event "stopped" (some (.ofFields
    [("reason", .string reason), ("threadId", .ofNat threadId), ("allThreadsStopped", .bool true),
      ("text", (text.map Json.string).getD .null)]))

/-- Tells the client why the guest stopped. -/
def stopReport : StopReason → List Content
  | .exited code =>
    [.event "exited" (some (.ofFields [("exitCode", .ofInt code.toInt)])),
      .event "terminated" none]
  | reason => [stoppedEvent (stopKind reason) (some reason.message)]

/-- Passes guest output on to the client. -/
def outputEvent (text : String) : Content :=
  .event "output" (some (.ofFields [("category", .string "stdout"), ("output", .string text)]))

namespace Server

/-- Sends a message. -/
def send (s : Server) (content : Content) : Server := { s with wire := s.wire.send content }

/-- Changes the launched program, if there is one. -/
def modifyProgram (s : Server) (f : Program → Program) : Server :=
  { s with program := s.program.map f }

/-- Takes pending guest output and passes it on, if there is any. -/
def sendOutput (s : Server) (p : Program) : Server × Program :=
  let (text, session) := p.session.takeOutput
  (if text.isEmpty then s else s.send (outputEvent text), { p with session })

/-- What is told after a single step. -/
def stepReport (goesOn : Bool) (state : RunState) : List Content :=
  match goesOn, state.stopReason? with
  | false, some reason => stopReport reason
  | _, _ => [stoppedEvent "step" none]

/-- Carries out an action. Gives the actions that follow from it. -/
def perform (s : Server) : Action → Server × List Action
  | .send content => (s.send content, [])
  | .startRunning => (s.modifyProgram fun p => { p with session := p.session.startRunning }, [])
  | .stopRunning => (s.modifyProgram fun p => { p with session := p.session.stopRunning }, [])
  | .clearStop => (s.modifyProgram fun p => { p with flag := p.flag.take.2 }, [])
  | .requestStop => (s.modifyProgram fun p => { p with flag := p.flag.request }, [])
  | .wake => (s.modifyProgram fun p => { p with wakes := p.wakes + 1 }, [])
  | .release => ({ s with program := none }, [])
  | .singleStep =>
    match s.program with
    | none => (s, [])
    | some p =>
      let (goesOn, session) := p.session.runStep
      let (s, p) := s.sendOutput { p with session }
      ({ s with program := some p }, (stepReport goesOn p.session.state).map Action.send)

/-! ### The worker -/

/-- A turn of the worker: a request to stop is taken and obeyed, or a batch is executed. -/
def workerTurn (p : Program) : Turn × Program :=
  let (requested, flag) := p.flag.take
  if requested && p.session.state.isRunning then
    (.stopped .paused, { p with session := p.session.stopRunning, flag })
  else
    let (turn, session) := p.session.runTurn
    (turn, { p with session, flag })

/-- What the worker does after a turn. -/
def phaseAfter : Turn → WorkerPhase
  | .goesOn => .turning
  | .stopped reason => .reporting (stopReport reason)
  | .idle => .waiting

/-- One atomic action of the worker, or none if it has to wait for a wake-up. -/
def workerStep? (s : Server) : Option Server := do
  let p ← s.program
  match p.worker with
  | .waiting =>
    if p.wakes = 0 then none
    else some { s with program := some { p with worker := .turning, wakes := p.wakes - 1 } }
  | .turning =>
    let (turn, p) := workerTurn p
    let (s, p) := s.sendOutput p
    some { s with program := some { p with worker := phaseAfter turn } }
  | .reporting [] => some { s with program := some { p with worker := .waiting } }
  | .reporting (content :: rest) =>
    some { s.send content with program := some { p with worker := .reporting rest } }

/-- Whether the worker has nothing to do. -/
def atRest (s : Server) : Bool := s.workerStep?.isNone

/-- Lets the worker proceed until a condition holds or it has nothing to do. There is no result if
`fuel` actions do not suffice. -/
def runWorkerUntil (done : Server → Bool) : (fuel : Nat) → Server → Option Server
  | 0, _ => none
  | fuel + 1, s =>
    if done s then some s
    else match s.workerStep? with
      | none => some s
      | some s => runWorkerUntil done fuel s

/-- Carries out actions one after the other. The worker proceeds only where an action has to wait
for it. -/
def performAll : (fuel : Nat) → List Action → Server → Option Server
  | _, [], s => some s
  | 0, _ :: _, _ => none
  | fuel + 1, .release :: rest, s => do
    let s ← runWorkerUntil atRest (fuel + 1) s
    performAll fuel rest (s.perform .release).1
  | fuel + 1, action :: rest, s =>
    let (s, more) := s.perform action
    performAll fuel (more ++ rest) s

/-- What ends the use of a program: it is stopped and its worker comes to rest. -/
def shutdownActions (s : Server) : List Action :=
  if s.program.isSome then [.stopRunning, .requestStop, .release] else []

end Server

end GuestDebugger.Adapter
