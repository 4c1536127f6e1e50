import GuestDebugger.Prompt.Command
import GuestDebugger.Prompt.Listings
import GuestDebugger.Session.Turn
import GuestDebugger.Sink
import GuestDebugger.Text.Lines
import GuestDebugger.Text.Utf8

/-! # The prompt

A session is driven by lines of text: each is shown a prompt, read as a command, carried out and
answered. A refused line is answered by an error and changes nothing. Writing may fail at any
byte; then the prompt ends there, but a guest that runs goes on to its next stop first. -/

namespace GuestDebugger

/-- What the prompt works on. -/
structure Console (ε : Type) where
  /-- The session. -/
  session : Session ε
  /-- Where texts are written. -/
  sink : Sink := {}
  /-- A request to stop a running guest. -/
  flag : StopFlag := {}

/-- Why the prompt ends before its input does. -/
inductive PromptFailure where
  /-- The sink did not take a text. -/
  | sinkFull
  /-- A line is no UTF-8. -/
  | inputNotUtf8
  /-- The guest ran longer than it was allowed to. -/
  | unfinished
deriving DecidableEq, Repr

/-- Actions at the prompt. The console stays as it is at a failure. -/
abbrev PromptM (ε : Type) := ExceptT PromptFailure (StateM (Console ε))

/-- Why a target has no address. -/
inductive TargetError where
  /-- There is no such label. -/
  | unknownLabel (name : String)
deriving DecidableEq, Repr

/-- What is told to the user about a target without an address. -/
def TargetError.message : TargetError → String
  | unknownLabel name => "unknown label " ++ Text.quoted name

/-- The address of a target. -/
def Target.resolve (labels : Labels) : Target → Except TargetError Address
  | .address a => .ok a
  | .label name =>
    match labels.lookup? name with
    | some a => .ok a
    | none => .error (.unknownLabel name)

/-- Whether the prompt goes on after a line. -/
inductive Reaction where
  /-- The next line is read. -/
  | next
  /-- The prompt is left. -/
  | quit
deriving DecidableEq, Repr

namespace Prompt

variable {ε : Type} [Engine ε]

/-- The session. -/
def session : PromptM ε (Session ε) := return (← get).session

/-- Replaces the session. -/
def setSession (s : Session ε) : PromptM ε Unit := modify ({ · with session := s })

/-- Writes a text. -/
def write (text : String) : PromptM ε Unit := do
  let c ← get
  let (taken, sink) := c.sink.write text
  set { c with sink }
  unless taken do throw .sinkFull

/-- Writes a line. -/
def writeLine (line : String) : PromptM ε Unit := write (line ++ "\n")

/-- Writes lines. -/
def writeLines : List String → PromptM ε Unit
  | [] => return
  | line :: rest => do
    writeLine line
    writeLines rest

/-- Writes an error. -/
def writeError (message : String) : PromptM ε Unit := writeLine ("error: " ++ message)

/-- A text as it is shown: with a line feed at its end. -/
def withLineEnd (text : String) : String :=
  if text.toList.getLast? = some '\n' then text else text ++ "\n"

/-- Takes pending guest output and writes it to a sink. Gives whether the sink took it. -/
def flushTo (s : Session ε) (k : Sink) : Bool × Session ε × Sink :=
  let (text, s) := s.takeOutput
  if text.isEmpty then (true, s, k)
  else
    let (taken, k) := k.write (withLineEnd text)
    (taken, s, k)

/-- Shows pending guest output. -/
def flushOutput : PromptM ε Unit := do
  let c ← get
  let (taken, session, sink) := flushTo c.session c.sink
  set { c with session, sink }
  unless taken do throw .sinkFull

/-- Tells why the guest stopped, if it did. -/
def report : PromptM ε Unit := do writeLines (← session).stopLines

/-- What happens between two turns: output is shown as long as the sink takes it. -/
def showBetweenTurns (r : Session.Run ε (Bool × Sink)) : Session.Run ε (Bool × Sink) :=
  let (taken, sink) := r.caller
  if taken then
    let (taken, session, sink) := flushTo r.session sink
    { r with session, caller := (taken, sink) }
  else r

/-- Lets a running guest run for at most `fuel` turns, and reports. -/
def runAndReport (fuel : Nat) : PromptM ε Unit := do
  let c ← get
  match Session.runUntilStopped showBetweenTurns fuel ⟨c.session, c.flag, true, c.sink⟩ with
  | none => throw .unfinished
  | some (_, r) =>
    set ({ session := r.session, flag := r.flag, sink := r.caller.2 } : Console ε)
    unless r.caller.1 do throw .sinkFull
    flushOutput
    report

/-- Executes at most `n` instructions one by one. -/
def stepTimes : (n : Nat) → Session ε → Session ε
  | 0, s => s
  | n + 1, s =>
    match s.runStep with
    | (true, s) => stepTimes n s
    | (false, s) => s

/-- Carries something out at the address of a target. -/
def withAddress (t : Target) (action : Address → PromptM ε Unit) : PromptM ε Unit := do
  match t.resolve (← session).labels with
  | .ok a => action a
  | .error e => writeError e.message

/-- Carries out a command that does not leave the prompt. -/
def perform (fuel : Nat) : Command → PromptM ε Unit
  | .step count => do
    setSession (stepTimes count.toNat (← session))
    flushOutput
    report
  | .resume => do
    setSession (← session).startRunning
    runAndReport fuel
  | .runTo target => withAddress target fun a => do
    setSession ((← session).runTo a)
    runAndReport fuel
  | .setBreakpoint target flags => withAddress target fun a => do
    setSession ((← session).addBreakpoint a flags)
    writeLine ("breakpoint at " ++ (← session).location a)
  | .delete target => withAddress target fun a => do
    setSession ((← session).removeBreakpoint a)
  | .toggle target => withAddress target fun a => do
    let (toggled, s) := (← session).toggleBreakpoint a
    setSession s
    match toggled with
    | .ok disabled =>
      writeLine ("breakpoint at " ++ s.location a ++ (if disabled then " disabled" else " enabled"))
    | .error e => writeError e.message
  | .listBreakpoints => do writeLines (← session).breakpointLines
  | .registers => do writeLines (Engine.registers (← session).engine).lines
  | .memory target length => withAddress target fun a => do
    writeLines (memoryLines (Engine.memory (← session).engine) a length.toNat)
  | .disassemble none count => do
    let s ← session
    writeLines (s.disassemblyLines s.pc count.toNat)
  | .disassemble (some target) count => withAddress target fun a => do
    writeLines ((← session).disassemblyLines a count.toNat)
  | .output => flushOutput
  | .windows => do writeLines (← session).host.display.lines
  | .stats => do writeLines (← session).statLines
  | .help => writeLines helpLines
  | .quit => return

/-- Answers a line. -/
def answer (fuel : Nat) (line : String) : PromptM ε Reaction := do
  match Command.parse line with
  | .error e =>
    writeError e.message
    return .next
  | .ok .quit => return .quit
  | .ok command =>
    perform fuel command
    return .next

/-- Answers a line that is given by its bytes. -/
def answerBytes (fuel : Nat) (line : List UInt8) : PromptM ε Reaction := do
  match Text.decode? line with
  | none => throw .inputNotUtf8
  | some text => answer fuel text

/-- Shows the prompt. -/
def showPrompt : PromptM ε Unit := do
  let s ← session
  write (s.location s.pc ++ "> ")

/-- Reads lines until one leaves the prompt or there are no more. -/
def loop (fuel : Nat) : List (List UInt8) → PromptM ε Unit
  | [] => do
    showPrompt
    writeLine ""
  | line :: rest => do
    showPrompt
    match ← answerBytes fuel line with
    | .next => loop fuel rest
    | .quit => return

/-- Serves all lines of an input. Gives how the prompt ended and the console after it. -/
def serve (fuel : Nat) (input : List UInt8) (c : Console ε) :
    Except PromptFailure Unit × Console ε :=
  (loop fuel (Text.byteLines input)).run.run c

end Prompt

end GuestDebugger
