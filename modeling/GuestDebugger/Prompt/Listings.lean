import GuestDebugger.Decimal.Fixed
import GuestDebugger.Bytes
import GuestDebugger.Session.Basic
import GuestDebugger.Text.Quoted

/-! # What the prompt shows

The lines that the prompt prints about a session. None of them changes it. -/

namespace GuestDebugger

/-- The written form of why the guest stopped, as a value. -/
def StopReason.valueText : StopReason → String
  | breakpoint address => "Breakpoint \x7b addr: " ++ toString address.toNat ++ " \x7d"
  | exited code => "Exited \x7b code: " ++ toString code.toInt ++ " \x7d"
  | fault cause => "Fault \x7b message: " ++ Text.quoted cause.message ++ " \x7d"
  | paused => "Paused"

/-- The written form of a run state, as a value. -/
def RunState.valueText : RunState → String
  | idle => "Idle"
  | singleStepping => "SingleStepping"
  | running => "Running"
  | stopped reason => "Stopped(" ++ reason.valueText ++ ")"

/-- The number of bytes in a row of a memory dump. -/
def dumpRowLength : Nat := 16

/-- One row of a memory dump. -/
structure DumpRow where
  /-- The address of the first byte. -/
  address : Nat
  /-- The bytes. -/
  bytes : List UInt8
deriving DecidableEq, Repr

/-- The rows of the bytes of a memory from `start` up to `stop`, that one left out. -/
def dumpRows (memory : ByteArray) (start stop : Nat) : List DumpRow :=
  (List.range ((stop - start + (dumpRowLength - 1)) / dumpRowLength)).map fun row =>
    let first := start + row * dumpRowLength
    ⟨first, (memory.extract first (min (first + dumpRowLength) stop)).toList⟩

/-- The written form of a row. -/
def DumpRow.text (row : DumpRow) : String :=
  "  " ++ Text.paddedHex 8 row.address ++ "  " ++ " ".intercalate (row.bytes.map Bytes.hex)

/-- The lines that show a range of a memory, or the one line that tells it holds no byte. -/
def memoryLines (memory : ByteArray) (a : Address) (length : Nat) : List String :=
  let start := a.toNat
  let stop := min (start + length) memory.size
  if start < stop then (dumpRows memory start stop).map DumpRow.text
  else ["error: " ++ a.text ++ " is outside guest memory"]

/-- The line that shows a window. -/
def Window.line (w : Window) : String :=
  let surface := match w.surface with
    | some handle => "Some(" ++ handle.text ++ ")"
    | none => "None"
  "  window " ++ toString w.handle.id.toNat ++ " " ++ Text.quoted w.options.title ++ " "
    ++ toString w.options.width.toNat ++ "x" ++ toString w.options.height.toNat
    ++ " surface " ++ surface

/-- The line that shows a surface. -/
def Surface.line (s : Surface) (handle : SurfaceHandle) : String :=
  "  surface " ++ toString handle.index.toNat ++ " " ++ toString s.front.width.toNat ++ "x"
    ++ toString s.front.height.toNat ++ (if s.isPrimary then " primary" else "")

/-- The lines that show all windows and surfaces. -/
def Display.lines (d : Display) : List String :=
  d.windows.toList.map Window.line ++ d.surfaceList.map fun (handle, s) => s.line handle

/-- The lines that show the registers. -/
def Registers.lines (r : Registers) : List String :=
  r.toList.map fun (register, value) =>
    "  " ++ register.name.pushn ' ' (3 - register.name.length) ++ " "
      ++ Text.paddedHex 8 value.toNat

namespace Session

variable {ε : Type} [Engine ε]

/-- An address as it is shown: with its description, if there are labels. -/
def location (s : Session ε) (a : Address) : String :=
  if s.labels.isEmpty then a.text else a.text ++ " <" ++ s.labels.describe a ++ ">"

/-- The line that shows a breakpoint. -/
def breakpointLine (s : Session ε) (b : Breakpoint) : String :=
  "  " ++ s.location b.address ++ (if b.disabled then " disabled" else "")
    ++ (if b.flags.temporary then " temp" else "") ++ (if b.flags.oneShot then " once" else "")

/-- The lines that show the breakpoint table. -/
def breakpointLines (s : Session ε) : List String :=
  if s.breakpoints.isEmpty then ["no breakpoints"]
  else s.breakpoints.toList.map s.breakpointLine

/-- The lines that show instructions from an address on; the next one is marked. -/
def disassemblyLines (s : Session ε) (a : Address) (count : Nat) : List String :=
  (Engine.disassemble s.engine a count).map fun d =>
    (if d.address = s.pc then "=>" else "  ") ++ " " ++ d.address.digits ++ "  " ++ d.text

/-- The lines that show the counters. -/
def statLines (s : Session ε) : List String :=
  ["  state         " ++ s.state.valueText,
    "  instructions  " ++ toString s.instructionCount,
    "  batch size    " ++ toString s.batchSize.toNat,
    "  instr/ms      " ++ Decimal.fixed 1 s.rate]

/-- The lines that tell why the guest stopped, if it did. -/
def stopLines (s : Session ε) : List String :=
  match s.state.stopReason? with
  | some (.breakpoint a) => ["breakpoint hit at " ++ s.location a]
  | some reason => [reason.message]
  | none => []

end Session

/-- The lines that show the list of commands. -/
def helpLines : List String :=
  ["commands:",
    "  s, step [n]                 execute n instructions (default 1, also an empty line)",
    "  c, continue                 run until a breakpoint, exit or fault",
    "  r, runto <addr|label>       run until the address is reached",
    "  b, break <addr|label> [temp] [once]",
    "  d, delete <addr|label>",
    "  t, toggle <addr|label>      enable or disable a breakpoint",
    "  bl, breakpoints             list breakpoints",
    "  regs                        show registers",
    "  x <addr> [len]              dump guest memory",
    "  dis [addr] [n]              disassemble",
    "  out                         show guest output not yet printed",
    "  windows                     list windows and surfaces",
    "  stats                       execution statistics",
    "  q, quit"]

end GuestDebugger
