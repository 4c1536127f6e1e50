import GuestDebugger.Labels
import GuestDebugger.Session.State
import GuestDebugger.Settings

/-! # Debugging sessions

A session owns an engine, the host that the engine calls into and the breakpoint table. It starts
and stops the guest, and executes it in single steps or in batches whose size adapts to the time
they take. Whoever calls is told whether execution may go on. -/

namespace GuestDebugger

/-- A debugging session. -/
structure Session (ε : Type) where
  /-- The engine. -/
  engine : ε
  /-- The host. -/
  host : Host
  /-- The breakpoint table. -/
  breakpoints : Breakpoints := ∅
  /-- How many instructions were counted. The count has no width: one of 64 bits would take a guest
  centuries to fill. -/
  instructionCount : Nat := 0
  /-- The number of instructions in the next batch. -/
  batchSize : UInt32
  /-- The estimate of instructions per millisecond. -/
  rate : Float := 0
  /-- Whether the guest is running. -/
  state : RunState := .idle
  /-- How batch stepping adapts. -/
  settings : StepSettings
  /-- The labels. -/
  labels : Labels := ∅

namespace Session

variable {ε : Type} [Engine ε]

/-- A session before its first instruction. -/
def create (engine : ε) (settings : StepSettings) (clock : Clock) : Session ε :=
  { engine, host := .create guestBytesPerPixel clock
    batchSize := max settings.initialBatchSize 1, settings }

/-- The address of the next instruction. -/
def pc (s : Session ε) : Address := Engine.pc s.engine

/-- The code with which the guest ended. -/
def exitCode (s : Session ε) : Option Int32 := s.host.exitCode

/-- Takes the guest output that was not taken yet. -/
def takeOutput (s : Session ε) : String × Session ε :=
  let (text, host) := s.host.takeOutput
  (text, { s with host })

/-! ### Breakpoints -/

/-- The session with another breakpoint table and the engine that goes with it. -/
def withBreakpoints (s : Session ε) (t : Breakpoints × ε) : Session ε :=
  { s with breakpoints := t.1, engine := t.2 }

/-- Adds or replaces a breakpoint. -/
def addBreakpoint (s : Session ε) (a : Address) (flags : BreakpointFlags) : Session ε :=
  s.withBreakpoints (s.breakpoints.add s.engine a flags)

/-- Removes a breakpoint. -/
def removeBreakpoint (s : Session ε) (a : Address) : Session ε :=
  s.withBreakpoints (s.breakpoints.remove s.engine a)

/-- Enables or disables a breakpoint. Gives whether it is now disabled, if there is one, and in any
case the session after it. -/
def toggleBreakpoint (s : Session ε) (a : Address) : Except BreakpointError Bool × Session ε :=
  let (disabled, t) := s.breakpoints.toggle s.engine a
  (disabled, s.withBreakpoints t)

/-! ### Starting and stopping -/

/-- The session after a stop. -/
def stop (s : Session ε) (reason : StopReason) : Session ε := { s with state := .stopped reason }

/-- Sets the guest running, unless it ended. -/
def startRunning (s : Session ε) : Session ε :=
  match s.exitCode with
  | some code => s.stop (.exited code)
  | none => { s with state := .running }

/-- Stops a running guest. -/
def stopRunning (s : Session ε) : Session ε :=
  if s.state.isRunning then s.stop .paused else s

/-- Sets the guest running up to an address. If it is there already, it stops in place. -/
def runTo (s : Session ε) (a : Address) : Session ε :=
  if s.exitCode.isNone && s.pc == a then s.stop (.breakpoint a)
  else (s.addBreakpoint a { oneShot := true }).startRunning

/-! ### Executing -/

/-- The outcome of executing: whether execution may go on, or a crash; and the session after
it. -/
abbrev Executed (ε : Type) := Except Crash Bool × Session ε

/-- Stops if the guest ended or an enabled breakpoint is reached. A transient breakpoint is
removed. -/
def evaluateStop (s : Session ε) : Executed ε :=
  match s.exitCode with
  | some code => (.ok false, s.stop (.exited code))
  | none =>
    match s.breakpoints.get? s.pc with
    | some b =>
      if b.disabled then (.ok true, s)
      else
        let here := s.pc
        let s := if b.isTransient then s.removeBreakpoint here else s
        (.ok false, s.stop (.breakpoint here))
    | none => (.ok true, s)

/-- The session with the engine and the host after executing. -/
def afterRun {α : Type} (s : Session ε) (ran : Ran ε α) : Session ε :=
  { s with engine := ran.engine, host := ran.host }

/-- What an engine that did not finish means: an error stops the guest, a crash is passed on. -/
def halted (s : Session ε) : Halt → Executed ε
  | .error e => (.ok false, s.stop (.fault (.error e)))
  | .crash c => (.error c, s)

/-- The session with more instructions counted. -/
def countInstructions (s : Session ε) (n : Nat) : Session ε :=
  { s with instructionCount := s.instructionCount + n }

/-- Executes one instruction. -/
def step (s : Session ε) : Executed ε :=
  match s.exitCode with
  | some code => (.ok false, s.stop (.exited code))
  | none =>
    let s := if s.state.isRunning then s else { s with state := .singleStepping }
    let ran := Engine.step s.engine s.host
    let s := s.afterRun ran
    match ran.outcome with
    | .error halt => s.halted halt
    | .ok () => (s.countInstructions 1).evaluateStop

/-- Twice the size, as far as 32 bits go. -/
def doubled (size : UInt32) : UInt32 := UInt32.ofNat (min (size.toNat * 2) (UInt32.size - 1))

/-- Adapts the estimate of the rate and the batch size to a batch that ran without failing. -/
def adapt (s : Session ε) (executed : UInt32) (elapsed : Float) : Session ε :=
  let rate :=
    if executed == s.batchSize && elapsed > 0 then
      0.5 * (executed.toFloat / elapsed) - 0.5 * s.rate
    else s.rate
  let batchSize := if elapsed < s.settings.fastBatchMs then doubled s.batchSize else s.batchSize
  { s with rate, batchSize }

/-- Executes a batch, and measures the time it takes. -/
def runBatch (s : Session ε) : Executed ε :=
  let (started, host) := s.host.readClock
  let ran := Engine.stepMany s.engine host s.batchSize
  match ran.outcome with
  | .error halt => (s.afterRun ran).halted halt
  | .ok executed =>
    let (ended, host) := ran.host.readClock
    let s := ({ s with engine := ran.engine, host }).countInstructions executed.toNat
    (s.adapt executed (ended - started)).evaluateStop

/-- Executes a batch. The engine does not run from an address of its break set, so a batch that
begins on an enabled breakpoint leaves it by a single step first. -/
def stepMany (s : Session ε) : Executed ε :=
  match s.exitCode with
  | some code => (.ok false, s.stop (.exited code))
  | none =>
    if s.breakpoints.isActive s.pc then
      let ran := Engine.step s.engine s.host
      let s := s.afterRun ran
      match ran.outcome with
      | .error halt => s.halted halt
      | .ok () =>
        let s := s.countInstructions 1
        if s.exitCode.isSome then s.evaluateStop else s.runBatch
    else s.runBatch

end Session

end GuestDebugger
