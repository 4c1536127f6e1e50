import GuestDebugger.CommandLine

/-! # The debugger as a program

Files, standard input and output, and the time. What is read is handed to the library as it comes
in, and what the library answers is written at once. -/

namespace GuestDebugger.Terminal

/-- How many turns or actions are carried out at most, which is more than anyone will wait for. -/
def patience : Nat := 0x4000000000000000

/-! ### The outside -/

/-- Why a file could not be read. -/
def fileError : IO.Error → FileError
  | .noFileOrDirectory .. => .notFound
  | .inappropriateType _ 21 _ => .isDirectory
  | e => .other (toString e)

/-- Reads a file. -/
def readFile (path : String) : IO (Except FileError (List UInt8)) := do
  try return .ok (← IO.FS.readBinFile path).toList
  catch e => return .error (fileError e)

/-- Reads the files that are going to be launched. -/
def readFiles (paths : List String) : IO Files := do
  let found ← paths.mapM fun path => return (path, ← readFile path)
  return fun path => (found.lookup path).getD (.error .notFound)

/-- The microseconds since a moment in the past. -/
def microsSince (beginning : Nat) : IO Nat := return (← IO.monoNanosNow) / 1000 - beginning

/-- A clock that shows a time and moves by an amount each time it is read. -/
def clockAt (micros : Nat) (tick : Float) : Clock :=
  { micros := UInt64.ofNat micros, ticks := #[tick] }

/-- Reads a byte, if there is one more. -/
def readByte? (input : IO.FS.Stream) : IO (Option UInt8) :=
  return (← input.read 1).toList.head?

/-- Reads a line without its line feed, backwards, and whether there was a line feed. -/
def readLine (input : IO.FS.Stream) : IO (List UInt8 × Bool) := do
  let mut line := []
  repeat
    match ← readByte? input with
    | none => return (line, false)
    | some 10 => return (line, true)
    | some b => line := b :: line
  return (line, false)

/-- Writes a failure and gives the exit code for it. -/
def fail (failure : CommandLine.Failure) : IO UInt32 := do
  IO.eprint failure.report
  return 1

/-! ### The prompt -/

/-- Carries out an action at the prompt and writes what it shows. -/
def showing {α : Type} (console : Console Machine) (action : PromptM Machine α) :
    IO (Except PromptFailure α × Console Machine) := do
  let (result, console) := action.run.run console
  let output ← IO.getStdout
  output.write console.sink.written
  output.flush
  return (result, { console with sink := {} })

/-- Serves the prompt until it is left. While a command is carried out the time goes on by a
microsecond with each reading. -/
def servePrompt (beginning : Nat) (session : Session Machine) : IO UInt32 := do
  let input ← IO.getStdin
  let mut console : Console Machine := { session }
  repeat
    let (shown, next) ← showing console Prompt.showPrompt
    console := next
    if let .error e := shown then return ← fail (.prompt e)
    let (line, ended) ← readLine input
    if line.isEmpty && !ended then
      let (shown, _) ← showing console (Prompt.writeLine "")
      if let .error e := shown then return ← fail (.prompt e)
      return 0
    let line := if ended then Text.LineBreak.ofBytes.close line else line.reverse
    let clock := clockAt (← microsSince beginning) 0.001
    let timed := { console with session.host.clock := clock }
    let (reaction, next) ← showing timed (Prompt.answerBytes patience line)
    console := next
    match reaction with
    | .ok .next => continue
    | .ok .quit => return 0
    | .error e => return ← fail (.prompt e)
  return 0

/-- Runs the prompt. -/
def runPrompt (args : List String) : IO UInt32 := do
  let files ← readFiles (CommandLine.launchedFiles args)
  let beginning ← microsSince 0
  match CommandLine.launch { files } args with
  | .error e => fail e
  | .ok session => servePrompt beginning session

/-! ### The adapter -/

/-- Reads a frame and gives its body, or nothing at the end of the input. -/
def readBody (input : IO.FS.Stream) : IO (Except Adapter.FrameError (Option (List UInt8))) := do
  let mut length := none
  repeat
    let (line, ended) ← readLine input
    if line.isEmpty && !ended then return .ok none
    match Adapter.Frame.afterLine length line.reverse with
    | .failed e => return .error e
    | .goesOn known => length := known
    | .ended size =>
      let body ← input.read (USize.ofNat size)
      return if body.size < size then .error .bodyTooShort else .ok (some body.toList)
  return .ok none

/-- Writes the messages that were not written yet. -/
def flushWire (server : Adapter.Server) : IO Adapter.Server := do
  let output ← IO.getStdout
  output.write (Adapter.Wire.writeFrames server.wire.messages.toList {}).written
  output.flush
  return { server with wire.messages := #[] }

/-- Puts a clock into the launched program. -/
def withClock (server : Adapter.Server) (clock : Clock) : Adapter.Server :=
  server.modifyProgram fun p => { p with session.host.clock := clock }

/-- Ends the use of a program. -/
def shutdown (server : Adapter.Server) : IO Unit := do
  if let some server := server.shutdown patience then discard (flushWire server)

/-- Handles the message in a frame. Gives whether more are handled, and the server. -/
def handleBody (beginning : Nat) (server : Adapter.Server) (body : List UInt8) :
    IO (Except Adapter.FrameError (Bool × Adapter.Server)) := do
  match Adapter.Message.parse body with
  | .error e => return .error (.badBody e)
  | .ok m =>
    let files ← readFiles m.launchedFiles
    let clock := clockAt (← microsSince beginning) 0
    match (withClock server clock).handle { files, clock } patience m with
    | none => return .ok (false, server)
    | some (goesOn, server) => return .ok (goesOn, ← flushWire server)

/-- Serves a client until it disconnects. While no frame has come in, the worker proceeds. A batch
is taken to last as long as the worker's action before it, so that batches stop growing when they
take too long. -/
def runAdapter : IO UInt32 := do
  let input ← IO.getStdin
  let beginning ← microsSince 0
  let mut server : Adapter.Server := {}
  let mut coming ← IO.asTask (readBody input) .dedicated
  let mut lasted := 0
  repeat
    unless ← IO.hasFinished coming do
      let started ← microsSince beginning
      if let some next := (withClock server (clockAt started lasted)).workerStep? then
        server ← flushWire next
        lasted := Float.ofNat ((← microsSince beginning) - started) / 1000
        continue
    let body ← IO.ofExcept coming.get
    let handled ← match body with
      | .ok none => pure (.ok (false, server))
      | .ok (some body) => handleBody beginning server body
      | .error e => pure (.error e)
    match handled with
    | .ok (goesOn, next) =>
      server := next
      unless goesOn do
        shutdown server
        return 0
    | .error e =>
      if e.isEndOfInput then
        shutdown server
        return ← fail (.adapter e)
    coming ← IO.asTask (readBody input) .dedicated
  return 0

end GuestDebugger.Terminal

/-- Runs the debugger. -/
def main (args : List String) : IO UInt32 :=
  if GuestDebugger.CommandLine.isAdapter args then GuestDebugger.Terminal.runAdapter
  else GuestDebugger.Terminal.runPrompt args
