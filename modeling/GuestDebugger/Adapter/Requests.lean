import GuestDebugger.Adapter.Server
import GuestDebugger.Decimal.Fixed
import GuestDebugger.Prompt.Listings

/-! # Requests of the debug adapter

Handling a request begins with one critical section, and goes on with the atomic actions that this
leaves to do, of which sending the response is one. A critical section may refuse the request at any
point. What it did up to there stays done, and the request is answered by its error. -/

namespace GuestDebugger.Adapter

/-- Why a request is refused. -/
inductive RequestError where
  /-- No program is launched. -/
  | notLaunched
  /-- A program is launched already. -/
  | alreadyLaunched
  /-- The arguments of a launch are no settings. -/
  | badLaunchArguments (error : SettingsError)
  /-- The program cannot be launched. -/
  | launchFailed (error : LaunchError)
  /-- A reference is neither an address nor a label. -/
  | unresolved (reference : String)
  /-- The address is missing. -/
  | missingAddress
  /-- A breakpoint cannot be changed. -/
  | breakpoint (error : BreakpointError)
  /-- There are no such variables. -/
  | unknownVariables (reference : UInt64)
  /-- The guest is running. -/
  | stepWhileRunning
  /-- There is no such request. -/
  | unsupported (command : String)
deriving DecidableEq, Repr

/-- What the client is told about a refused request. -/
def RequestError.message : RequestError → String
  | notLaunched => "no program launched"
  | alreadyLaunched => "a program is already running"
  | badLaunchArguments error => "bad launch arguments: " ++ error.message
  | launchFailed error => error.task ++ ": " ++ error.cause
  | unresolved reference => "cannot resolve " ++ Text.quoted reference
  | missingAddress => "missing address argument"
  | breakpoint error => error.message
  | unknownVariables reference => "unknown variables reference " ++ toString reference.toNat
  | stepWhileRunning => "cannot step while running"
  | unsupported command => "unsupported request " ++ command

/-- The variables of the registers. -/
def registersReference : UInt64 := 1

/-- The variables of the counters. -/
def executionReference : UInt64 := 2

/-- A request as its handler sees it. -/
structure Request where
  /-- The number of the request. -/
  seq : UInt64
  /-- What is asked for. -/
  command : String
  /-- The arguments; `null` if there are none. -/
  arguments : Json

/-- What the critical section of a request works on. -/
structure Begun where
  /-- The server. -/
  server : Server
  /-- What is still to do afterwards, one atomic action after the other. -/
  actions : List Action := []

/-- Critical sections of requests. The server and the actions stay as they are at a refusal. -/
abbrev HandlerM := ExceptT RequestError (StateM Begun)

namespace Request

/-! ### Parts of a critical section -/

/-- Goes on with a result, or refuses the request. -/
def check {α : Type} : Except RequestError α → HandlerM α
  | .ok a => return a
  | .error e => throw e

/-- Refuses the request if something is the case. -/
def refuseIf (e : RequestError) (holds : Bool) : HandlerM Unit :=
  check (if holds then .error e else .ok ())

/-- The server. -/
def server : HandlerM Server := return (← get).server

/-- Changes the server. -/
def modifyServer (f : Server → Server) : HandlerM Unit :=
  modify fun b => { b with server := f b.server }

/-- Leaves actions to do. -/
def leave (actions : List Action) : HandlerM Unit :=
  modify fun b => { b with actions := b.actions ++ actions }

/-- The launched program. -/
def program : HandlerM Program := do
  match (← server).program with
  | some p => return p
  | none => throw .notLaunched

/-- The server with another session of the launched program. -/
def withSession (s : Server) (p : Program) (session : Session Machine) : Server :=
  { s with program := some { p with session } }

/-- Replaces the session of the launched program. -/
def setSession (p : Program) (session : Session Machine) : HandlerM Unit :=
  modifyServer (withSession · p session)

/-- Sends the response to a request. -/
def respond (r : Request) (body : Option Json) : Action :=
  .send (.success r.seq r.command body)

/-- Wakes the worker up, an old request to stop being cleared first. -/
def resume : List Action := [.clearStop, .wake]

/-- The field of the arguments with a text. -/
def text? (r : Request) (name : String) : Option String :=
  (r.arguments.field? name).bind Json.string?

/-- The address that a reference names: one written in hexadecimal, or that of a label. -/
def resolve? (labels : Labels) (reference : String) : Option Address :=
  (Address.parse? reference).or (labels.lookup? reference)

/-- The address that a reference names, if it names one. -/
def resolve (labels : Labels) (reference : String) : Except RequestError Address :=
  match resolve? labels reference with
  | some a => .ok a
  | none => .error (.unresolved reference)

/-- The address in the arguments. -/
def address (r : Request) (labels : Labels) : Except RequestError Address :=
  match r.text? "address" with
  | none => .error .missingAddress
  | some reference => resolve labels reference

/-! ### Starting and ending -/

/-- Tells what the adapter can do. -/
def capabilities (r : Request) : HandlerM Unit :=
  leave [r.respond (some (.ofFields
    [("supportsConfigurationDoneRequest", .bool true),
      ("supportsInstructionBreakpoints", .bool true),
      ("supportsDisassembleRequest", .bool true),
      ("supportsSteppingGranularity", .bool false),
      ("supportsStepBack", .bool false),
      ("supportsConditionalBreakpoints", .bool false),
      ("supportsSetVariable", .bool false)]))]

/-- Launches a program. -/
def launch (files : Files) (clock : Clock) (r : Request) : HandlerM Unit := do
  refuseIf .alreadyLaunched (← server).program.isSome
  let settings ← check ((LaunchSettings.ofJson r.arguments).mapError .badLaunchArguments)
  let session ← check ((Launch.start files clock settings).mapError .launchFailed)
  let p : Program := { session, stopOnEntry := settings.stopOnEntry }
  modifyServer ({ · with program := some p, owned := ∅ })
  leave [r.respond none, .send (.event "initialized" none)]

/-- Ends the configuration: a launched program stops at its entry or runs. -/
def configurationDone (r : Request) : HandlerM Unit := do
  leave [r.respond none]
  match (← server).program with
  | none => return
  | some p =>
    leave (if p.stopOnEntry then [.send (stoppedEvent "entry" none)] else .startRunning :: resume)

/-- Ends the use of a program. -/
def disconnect (r : Request) : HandlerM Unit := do
  leave [r.respond none]
  leave (← server).shutdownActions

/-! ### Breakpoints -/

/-- What a client asks for at one address. -/
structure BreakpointRequest where
  /-- The address or the label. -/
  reference : String
  /-- What is added to it. -/
  offset : Int64

/-- Reads what a client asks for; what is missing or of another kind is empty or zero. -/
def BreakpointRequest.ofJson (v : Json) : BreakpointRequest :=
  { reference := ((v.field? "instructionReference").bind Json.string?).getD ""
    offset := ((v.field? "offset").bind Json.int64?).getD 0 }

/-- The address that a client asks for. Sums wrap around. -/
def BreakpointRequest.address? (b : BreakpointRequest) (labels : Labels) : Option Address :=
  (resolve? labels b.reference).map (· + b.offset.toUInt64.toUInt32)

/-- What is told about one breakpoint that was asked for. -/
def BreakpointRequest.result (b : BreakpointRequest) (labels : Labels) : Json :=
  match b.address? labels with
  | some a => .ofFields [("verified", .bool true), ("instructionReference", .string a.text)]
  | none => .ofFields
    [("verified", .bool false), ("message", .string (RequestError.unresolved b.reference).message)]

/-- Replaces the breakpoints that the client set as a whole. -/
def setInstructionBreakpoints (r : Request) : HandlerM Unit := do
  let p ← program
  let asked := (((r.arguments.field? "breakpoints").bind Json.array?).getD []).map
    BreakpointRequest.ofJson
  let labels := p.session.labels
  let addresses := asked.filterMap (·.address? labels)
  let session := (← server).owned.keys.foldl (fun session a => session.removeBreakpoint a) p.session
  let session := addresses.foldl (fun session a => session.addBreakpoint a {}) session
  let owned := addresses.foldl (fun (owned : AddressSet) a => owned.insert a ()) ∅
  setSession p session
  modifyServer ({ · with owned })
  leave [r.respond (some (.ofFields [("breakpoints", .array (asked.map (·.result labels)))]))]

/-- Enables or disables a breakpoint. -/
def toggleBreakpoint (r : Request) : HandlerM Unit := do
  let p ← program
  let a ← check (r.address p.session.labels)
  let (toggled, session) := p.session.toggleBreakpoint a
  setSession p session
  let disabled ← check (toggled.mapError .breakpoint)
  leave [r.respond (some (.ofFields [("disabled", .bool disabled)]))]

/-! ### Running -/

/-- Runs to an address, or reports at once why the guest does not run. -/
def runTo (r : Request) : HandlerM Unit := do
  let p ← program
  let a ← check (r.address p.session.labels)
  let session := p.session.runTo a
  setSession p session
  leave [r.respond none]
  leave (match session.state.stopReason? with
    | some reason => (stopReport reason).map Action.send
    | none => resume)

/-- Lets the guest run. -/
def resumeGuest (r : Request) : HandlerM Unit := do
  let p ← program
  setSession p p.session.startRunning
  leave [r.respond (some (.ofFields [("allThreadsContinued", .bool true)]))]
  leave resume

/-- Executes one instruction, unless the guest is running. -/
def step (r : Request) : HandlerM Unit := do
  let p ← program
  refuseIf .stepWhileRunning p.session.state.isRunning
  leave [r.respond none, .singleStep]

/-- Asks the worker to stop. -/
def pause (r : Request) : HandlerM Unit := do
  let _ ← program
  leave [r.respond none, .requestStop]

/-! ### Inspecting -/

/-- Lists the one thread. -/
def threads (r : Request) : HandlerM Unit :=
  leave [r.respond (some (.ofFields
    [("threads", .array [.ofFields [("id", .ofNat threadId), ("name", .string "guest")]])]))]

/-- Shows the next instruction as the one stack frame. -/
def stackTrace (r : Request) : HandlerM Unit := do
  let p ← program
  let pc := p.session.pc
  let frame := Json.ofFields
    [("id", .ofNat 0), ("name", .string (p.session.labels.describe pc)), ("line", .ofNat 0),
      ("column", .ofNat 0), ("instructionPointerReference", .string pc.text)]
  leave [r.respond (some (.ofFields
    [("stackFrames", .array [frame]), ("totalFrames", .ofNat 1)]))]

/-- One group of variables. -/
def scope (name : String) (reference : UInt64) : Json :=
  .ofFields [("name", .string name), ("variablesReference", .ofNat reference.toNat),
    ("expensive", .bool false)]

/-- Lists the groups of variables. -/
def scopes (r : Request) : HandlerM Unit :=
  leave [r.respond (some (.ofFields
    [("scopes", .array
      [scope "Registers" registersReference, scope "Execution" executionReference])]))]

/-- One variable, which has no parts. -/
def variableJson (name value : String) : Json :=
  .ofFields [("name", .string name), ("value", .string value), ("variablesReference", .ofNat 0)]

/-- The variables of the registers. -/
def registerVariables (session : Session Machine) : List Json :=
  session.engine.registers.toList.map fun (register, value) =>
    variableJson register.name (Address.text value)

/-- The variables of the counters. -/
def executionVariables (session : Session Machine) : List Json :=
  [variableJson "state" session.state.valueText,
    variableJson "instructionCount" (toString session.instructionCount),
    variableJson "stepBatchSize" (toString session.batchSize.toNat),
    variableJson "instructionsPerMs" (Decimal.fixed 2 session.rate),
    variableJson "exitCode" (match session.exitCode with
      | some code => toString code.toInt
      | none => "none")]

/-- The variables of a group. -/
def variablesOf (session : Session Machine) (reference : UInt64) :
    Except RequestError (List Json) :=
  if reference = registersReference then .ok (registerVariables session)
  else if reference = executionReference then .ok (executionVariables session)
  else .error (.unknownVariables reference)

/-- Shows a group of variables. -/
def showVariables (r : Request) : HandlerM Unit := do
  let p ← program
  let reference := ((r.arguments.field? "variablesReference").bind Json.natural?).getD 0
  let shown ← check (variablesOf p.session reference)
  leave [r.respond (some (.ofFields [("variables", .array shown)]))]

/-- One disassembled instruction; a label at its address is shown with it. -/
def instructionJson (labels : Labels) (d : Disassembly) : Json :=
  let symbol := match labels.nameAt? d.address with
    | some name => [("symbol", Json.string name)]
    | none => []
  .ofFields ([("address", .string d.address.text), ("instruction", .string d.text)] ++ symbol)

/-- Shows instructions from an address on, some of them skipped. Sums wrap around. -/
def disassemble (r : Request) : HandlerM Unit := do
  let p ← program
  let start ← check (resolve p.session.labels ((r.text? "memoryReference").getD ""))
  let offset := ((r.arguments.field? "instructionOffset").bind Json.int64?).getD 0
  let skipped := if offset < 0 then 0 else offset.toUInt64
  let count := ((r.arguments.field? "instructionCount").bind Json.natural?).getD 0
  let shown := (p.session.engine.disassemble start (skipped + count).toNat).drop skipped.toNat
  leave [r.respond (some (.ofFields
    [("instructions", .array (shown.map (instructionJson p.session.labels)))]))]

/-! ### Any request -/

/-- The critical section of a request. -/
def begin (files : Files) (clock : Clock) (r : Request) : HandlerM Unit :=
  match r.command with
  | "initialize" => r.capabilities
  | "launch" => r.launch files clock
  | "setInstructionBreakpoints" => r.setInstructionBreakpoints
  | "toggleBreakpoint" => r.toggleBreakpoint
  | "runTo" => r.runTo
  | "configurationDone" => r.configurationDone
  | "threads" => r.threads
  | "stackTrace" => r.stackTrace
  | "scopes" => r.scopes
  | "variables" => r.showVariables
  | "disassemble" => r.disassemble
  | "continue" => r.resumeGuest
  | "next" => r.step
  | "stepIn" => r.step
  | "pause" => r.pause
  | "disconnect" => r.disconnect
  | other => throw (.unsupported other)

/-- How the critical section of a request ends, and what it did. -/
def begun (files : Files) (clock : Clock) (r : Request) (s : Server) :
    Except RequestError Unit × Begun :=
  (r.begin files clock).run.run { server := s }

/-- Begins to handle a request. What a refused one has left to do is followed by its error. -/
def accept (files : Files) (clock : Clock) (r : Request) (s : Server) : Server × List Action :=
  match r.begun files clock s with
  | (.ok (), b) => (b.server, b.actions)
  | (.error e, b) => (b.server, b.actions ++ [.send (.failure r.seq r.command e.message)])

/-- Whether more messages are handled after a request. -/
def goesOn (r : Request) : Bool := r.command ≠ "disconnect"

end Request

end GuestDebugger.Adapter
