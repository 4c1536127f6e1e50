import GuestDebugger.Breakpoints
import GuestDebugger.Host
import GuestDebugger.Registers

/-! # Engines

An engine executes guest instructions one at a time or in batches and calls the host while it
runs. Besides failing with an error an engine may crash; what happened up to then stays. -/

namespace GuestDebugger

/-- Why an instruction fails. -/
inductive EngineError where
  /-- The guest asked for it. -/
  | guestFault (message : String)
  /-- There is no such register. -/
  | unknownRegister (name : String)
  /-- A drawing instruction comes before any surface. -/
  | noSurface
  /-- A byte is stored outside guest memory. -/
  | outsideMemory (address : Address)
  /-- There is no instruction at the address. -/
  | noInstruction (address : Address)
  /-- A display call failed. -/
  | display (error : DisplayError)
deriving DecidableEq, Repr

/-- What is told to the user about a failed instruction. -/
def EngineError.message : EngineError → String
  | guestFault message => message
  | unknownRegister name => "unknown register " ++ name
  | noSurface => "no surface created yet"
  | outsideMemory address => "write outside memory at " ++ address.text
  | noInstruction address => "no instruction at " ++ address.text
  | display error => "host call failed: " ++ error.message

/-- What an engine that crashes leaves behind: a text, or nothing that can be shown. -/
structure Crash where
  /-- The text. -/
  text : Option String
deriving DecidableEq, Repr

/-- What is told to the user about a crash. -/
def Crash.message (c : Crash) : String :=
  match c.text with
  | some text => "panic: " ++ text
  | none => "panic"

/-- Why an engine did not finish what it was asked for. -/
inductive Halt where
  /-- An instruction failed. -/
  | error (e : EngineError)
  /-- The engine crashed. -/
  | crash (c : Crash)
deriving DecidableEq, Repr

/-- What executing leaves behind: the engine, the host, and an outcome. -/
structure Ran (ε α : Type) where
  /-- The engine afterwards. -/
  engine : ε
  /-- The host afterwards. -/
  host : Host
  /-- The outcome. -/
  outcome : Except Halt α

/-- One line of a disassembly. -/
structure Disassembly where
  /-- The address of the instruction. -/
  address : Address
  /-- The written form of the instruction. -/
  text : String
deriving DecidableEq, Repr

/-- Engines. -/
class Engine (ε : Type) extends BreakSet ε where
  /-- The address of the next instruction. -/
  pc : ε → Address
  /-- The contents of the registers. -/
  registers : ε → Registers
  /-- The guest memory. -/
  memory : ε → ByteArray
  /-- At most the given number of instructions from an address on. -/
  disassemble : ε → Address → Nat → List Disassembly
  /-- Executes one instruction, whatever the break set. -/
  step : ε → Host → Ran ε Unit
  /-- Executes at most the given number of instructions and gives how many ran. It ends before an
  address of the break set and after the guest has ended. -/
  stepMany : ε → Host → UInt32 → Ran ε UInt32

end GuestDebugger
