import GuestDebugger.Breakpoints
import GuestDebugger.Text.LowerCase
import GuestDebugger.Text.Quoted
import GuestDebugger.Text.Words

/-! # Commands of the prompt

A line typed at the prompt is a command name and arguments, as words of a command line. Names have
a short and a long form and are read in any case. An empty line is a single step. -/

namespace GuestDebugger

/-- Where a command points. -/
inductive Target where
  /-- An address. -/
  | address (a : Address)
  /-- The address of a label, which is still to be looked up. -/
  | label (name : String)
deriving DecidableEq, Repr

/-- Reads a target: what reads as an address is one, anything else is a label. -/
def Target.parse (text : String) : Target :=
  match Address.parse? text with
  | some a => .address a
  | none => .label text

/-- A command typed at the prompt. -/
inductive Command where
  /-- Executes single instructions. -/
  | step (count : UInt32)
  /-- Runs until something stops the guest. -/
  | resume
  /-- Runs until an address is reached. -/
  | runTo (target : Target)
  /-- Sets a breakpoint. -/
  | setBreakpoint (target : Target) (flags : BreakpointFlags)
  /-- Removes a breakpoint. -/
  | delete (target : Target)
  /-- Enables or disables a breakpoint. -/
  | toggle (target : Target)
  /-- Shows the breakpoint table. -/
  | listBreakpoints
  /-- Shows the registers. -/
  | registers
  /-- Shows guest memory. -/
  | memory (target : Target) (length : UInt32)
  /-- Shows instructions. -/
  | disassemble (target : Option Target) (count : UInt32)
  /-- Shows guest output that was not shown yet. -/
  | output
  /-- Shows windows and surfaces. -/
  | windows
  /-- Shows the counters of the session. -/
  | stats
  /-- Shows the list of commands. -/
  | help
  /-- Leaves the prompt. -/
  | quit
deriving DecidableEq, Repr

/-- Why a line is no command. -/
inductive CommandError where
  /-- A quote stays open. -/
  | quotes
  /-- There is no such command. -/
  | unknown (name : String)
  /-- A command that needs a target has none. -/
  | missingTarget (command : String)
  /-- A word is no count. -/
  | badCount (text : String)
  /-- A word is no property of a breakpoint. -/
  | badFlag (text : String)
deriving DecidableEq, Repr

/-- What is told to the user about a refused line. -/
def CommandError.message : CommandError → String
  | quotes => "unbalanced quotes"
  | unknown name => "unknown command " ++ Text.quoted name
  | missingTarget command => command ++ " needs an address or label"
  | badCount text => "bad count " ++ Text.quoted text
  | badFlag text => "unknown breakpoint flag " ++ Text.quoted text

namespace Command

/-- The target of a command is its first argument. -/
def readTarget (command : String) : List String → Except CommandError Target
  | [] => .error (.missingTarget command)
  | text :: _ => .ok (.parse text)

/-- A count that may be left out. -/
def readCount (default : UInt32) : Option String → Except CommandError UInt32
  | none => .ok default
  | some text =>
    match Text.readUInt32 10 text.toList with
    | .ok n => .ok n
    | .error _ => .error (.badCount text)

/-- Adds the properties of a breakpoint that words name. -/
def readFlags (flags : BreakpointFlags) : List String → Except CommandError BreakpointFlags
  | [] => .ok flags
  | "temp" :: rest => readFlags { flags with temporary := true } rest
  | "once" :: rest => readFlags { flags with oneShot := true } rest
  | other :: _ => .error (.badFlag other)

/-- Reads a command from its name in lower case and its arguments. -/
def ofWords (name : String) (arguments : List String) : Except CommandError Command :=
  match name with
  | "s" | "step" => return .step (← readCount 1 arguments[0]?)
  | "c" | "continue" => return .resume
  | "r" | "runto" => return .runTo (← readTarget "runto" arguments)
  | "b" | "break" => do
    let flags ← readFlags {} arguments.tail
    return .setBreakpoint (← readTarget "break" arguments) flags
  | "d" | "delete" => return .delete (← readTarget "delete" arguments)
  | "t" | "toggle" => return .toggle (← readTarget "toggle" arguments)
  | "bl" | "breakpoints" => return .listBreakpoints
  | "regs" => return .registers
  | "x" => do
    let target ← readTarget "x" arguments
    return .memory target (← readCount 16 arguments[1]?)
  | "dis" => return .disassemble (arguments.head?.map .parse) (← readCount 8 arguments[1]?)
  | "out" => return .output
  | "windows" => return .windows
  | "stats" => return .stats
  | "h" | "help" | "?" => return .help
  | "q" | "quit" => return .quit
  | other => throw (.unknown other)

/-- Reads a line of the prompt. -/
def parse (line : String) : Except CommandError Command :=
  match Text.words line.toList with
  | none => .error .quotes
  | some [] => .ok (.step 1)
  | some (name :: arguments) => ofWords (Text.lower name) arguments

end Command

end GuestDebugger
