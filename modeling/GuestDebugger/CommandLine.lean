import GuestDebugger.Adapter.Service
import GuestDebugger.Prompt.Loop

/-! # The command line

The debugger is run on a program and serves its prompt, or it is run as a debug adapter. What goes
wrong is told with its cause, if there is one. -/

namespace GuestDebugger.CommandLine

/-- How the debugger is called. -/
def usage : String := "usage: win32-debugger [--dap] [--labels PATH] [--batch N] PROGRAM"

/-- Why arguments are refused. -/
inductive ArgumentError where
  /-- Nothing follows the option for labels. -/
  | missingPath
  /-- Nothing follows the option for the batch size. -/
  | missingNumber
  /-- The batch size is no number. -/
  | badBatchSize (text : String) (error : Text.NumeralError)
  /-- Help was asked for. -/
  | help
  /-- There is no such option. -/
  | unknownOption (text : String)
  /-- No program is given. -/
  | missingProgram
deriving DecidableEq, Repr

/-- Why the debugger ends with a failure. -/
inductive Failure where
  /-- The arguments are refused. -/
  | arguments (error : ArgumentError)
  /-- The program cannot be launched. -/
  | launch (error : LaunchError)
  /-- The prompt ended before its input. -/
  | prompt (error : PromptFailure)
  /-- The adapter ended before its input. -/
  | adapter (error : Adapter.FrameError)
deriving DecidableEq, Repr

/-- What is told to the user about refused arguments. -/
def ArgumentError.message : ArgumentError → String
  | missingPath => "--labels needs a path"
  | missingNumber => "--batch needs a number"
  | badBatchSize text _ => "bad batch size " ++ Text.quoted text
  | help => usage
  | unknownOption text => "unknown option " ++ text ++ "\n" ++ usage
  | missingProgram => usage

/-- What is told to the user about a prompt that ended before its input. -/
def promptMessage : PromptFailure → String
  | .sinkFull => "Broken pipe (os error 32)"
  | .inputNotUtf8 => "stream did not contain valid UTF-8"
  | .unfinished => "the guest ran too long"

/-- What is told to the user about an adapter that ended before its input. -/
def adapterMessage : Adapter.FrameError → String
  | .badLength => "bad Content-Length header"
  | .headerNotUtf8 => "stream did not contain valid UTF-8"
  | .bodyTooShort => "failed to fill whole buffer"
  | .badBody .endOfInput => "the message ends too early"
  | .badBody .malformed => "the message is malformed"

namespace Failure

/-- What went wrong. -/
def message : Failure → String
  | arguments error => error.message
  | launch error => error.task
  | prompt error => promptMessage error
  | adapter error => adapterMessage error

/-- Why it went wrong, if that is told apart. -/
def cause? : Failure → Option String
  | arguments (.badBatchSize _ error) => some error.message
  | launch error => some error.cause
  | _ => none

/-- What is written about a failure. -/
def report (f : Failure) : String :=
  "Error: " ++ f.message ++ (match f.cause? with
    | some cause => "\n\nCaused by:\n    " ++ cause
    | none => "") ++ "\n"

end Failure

/-- What arguments ask for, as far as they were read. -/
structure Arguments where
  /-- The file with the guest listing. -/
  program : Option String := none
  /-- The file with the labels. -/
  labels : Option String := none
  /-- The number of instructions in the first batch. -/
  batchSize : Option UInt32 := none
deriving DecidableEq, Repr

/-- Reads arguments one after the other; of repeated ones the last counts. -/
def readArguments (a : Arguments) : List String → Except ArgumentError Arguments
  | [] => .ok a
  | ["--labels"] => .error .missingPath
  | "--labels" :: path :: rest => readArguments { a with labels := some path } rest
  | ["--batch"] => .error .missingNumber
  | "--batch" :: text :: rest =>
    match Text.readUInt32 10 text.toList with
    | .ok n => readArguments { a with batchSize := some n } rest
    | .error e => .error (.badBatchSize text e)
  | "-h" :: _ => .error .help
  | "--help" :: _ => .error .help
  | other :: rest =>
    if "--".toList.isPrefixOf other.toList then .error (.unknownOption other)
    else readArguments { a with program := some other } rest

/-- The settings that arguments stand for. -/
def readSettings (args : List String) : Except ArgumentError LaunchSettings := do
  let a ← readArguments {} args
  let some program := a.program | throw .missingProgram
  let stepping : StepSettings := {}
  let initialBatchSize := a.batchSize.getD stepping.initialBatchSize
  return { program, labels := a.labels, stepping := { stepping with initialBatchSize } }

/-- Whether the debugger is run as an adapter, whatever else the arguments say. -/
def isAdapter (args : List String) : Bool :=
  args.any fun arg => arg = "--dap" ∨ arg = "--debug-adapter"

/-- How the debugger ends. -/
structure Outcome where
  /-- Why it failed, if it did. -/
  failure : Option Failure
  /-- The bytes it wrote. -/
  written : ByteArray

/-- The exit code of the debugger. -/
def Outcome.code (o : Outcome) : Nat := if o.failure.isSome then 1 else 0

/-- The failure of a result. -/
def failure? {ε α : Type} (wrap : ε → Failure) : Except ε α → Option Failure
  | .error e => some (wrap e)
  | .ok _ => none

/-- The files that arguments ask to launch. -/
def launchedFiles (args : List String) : List String :=
  match readSettings args with
  | .ok settings => settings.files
  | .error _ => []

/-- Launches a program for the prompt. -/
def launch (around : Adapter.Surroundings) (args : List String) :
    Except Failure (Session Machine) := do
  let settings ← (readSettings args).mapError .arguments
  (Launch.start around.files around.clock settings).mapError .launch

/-- Runs the prompt on an input. -/
def runPrompt (around : Adapter.Surroundings) (fuel : Nat) (args : List String)
    (input : List UInt8) : Outcome :=
  match launch around args with
  | .error e => ⟨some e, .empty⟩
  | .ok session =>
    let (result, console) := Prompt.serve fuel input { session : Console Machine }
    ⟨failure? .prompt result, console.sink.written⟩

/-- Runs the adapter on an input. -/
def runAdapter (around : Adapter.Surroundings) (fuel : Nat) (input : List UInt8) :
    Option (Option Adapter.FrameError × List Adapter.Message) :=
  (Adapter.Server.serve around fuel input {}).map fun served =>
    (served.failure, served.server.wire.messages.toList)

end GuestDebugger.CommandLine
