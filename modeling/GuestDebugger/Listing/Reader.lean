import GuestDebugger.Listing.Basic
import GuestDebugger.Text.Blank
import GuestDebugger.Text.Lines
import GuestDebugger.Text.LowerCase
import GuestDebugger.Text.Words

/-! # Reading listings

A line of a listing holds a hexadecimal address, an instruction and its arguments as words of a
command line. A semicolon outside double quotes starts a comment. The first line that breaks the
rules or repeats an address decides the error. -/

namespace GuestDebugger

/-- What is wrong with one line of a listing. -/
inductive LineProblem where
  /-- A quote stays open. -/
  | unbalancedQuotes
  /-- A word is no address. -/
  | badAddress (text : String)
  /-- There is nothing after the address. -/
  | missingInstruction
  /-- There are fewer arguments than needed so far. -/
  | missingArgument (mnemonic : String) (needed : Nat)
  /-- A word is no number. -/
  | badNumber (text : String)
  /-- A word is no exit code. -/
  | badExitCode (text : String)
  /-- A word is no property of a surface. -/
  | unknownSurfaceFlag (text : String)
  /-- A number is no byte. -/
  | notAByte (value : UInt32)
  /-- There is no such instruction. -/
  | unknownInstruction (mnemonic : String)
deriving DecidableEq, Repr

/-- What is told to the user about a line. -/
def LineProblem.message : LineProblem → String
  | unbalancedQuotes => "unbalanced quotes"
  | badAddress text => "bad address " ++ Text.quoted text
  | missingInstruction => "missing instruction"
  | missingArgument mnemonic needed =>
    mnemonic ++ " expects at least " ++ toString needed ++ " argument(s)"
  | badNumber text => "bad number " ++ Text.quoted text
  | badExitCode text => "bad exit code " ++ Text.quoted text
  | unknownSurfaceFlag text => "unknown surface flag " ++ Text.quoted text
  | notAByte value => toString value.toNat ++ " does not fit in a byte"
  | unknownInstruction mnemonic => "unknown instruction " ++ Text.quoted mnemonic

/-- Why a text is no listing. -/
inductive ListingError where
  /-- A line breaks the rules. -/
  | badLine (line : Nat) (problem : LineProblem)
  /-- A line repeats the address of an earlier one. -/
  | duplicate (line : Nat) (address : Address)
  /-- No line holds an instruction. -/
  | empty
deriving DecidableEq, Repr

/-- What is told to the user about a refused listing. -/
def ListingError.message : ListingError → String
  | badLine line problem => "line " ++ toString line ++ ": " ++ problem.message
  | duplicate line address =>
    "line " ++ toString line ++ ": address " ++ address.text ++ " defined twice"
  | empty => "listing has no instructions"

namespace Listing

/-- The part of a line before its comment. Only double quotes hide a semicolon. -/
def beforeComment (inQuotes : Bool) : List Char → List Char
  | [] => []
  | c :: rest =>
    if c == ';' && !inQuotes then []
    else c :: beforeComment (if c == '"' then !inQuotes else inQuotes) rest

/-- Reads a number: hexadecimal after `0x` or `0X`, decimal otherwise. -/
def readNumber? (text : List Char) : Option UInt32 :=
  match Address.afterMark? text with
  | some digits => (Text.readUInt32 16 digits).toOption
  | none => (Text.readUInt32 10 text).toOption

/-- The argument at an index, counted from zero. -/
def argument (mnemonic : String) (arguments : List String) (index : Nat) :
    Except LineProblem String :=
  match arguments[index]? with
  | some text => .ok text
  | none => .error (.missingArgument mnemonic (index + 1))

/-- The argument at an index as an address. -/
def addressArgument (mnemonic : String) (arguments : List String) (index : Nat) :
    Except LineProblem Address := do
  let text ← argument mnemonic arguments index
  match Address.parse? text with
  | some a => return a
  | none => throw (.badAddress text)

/-- The argument at an index as a number. -/
def numberArgument (mnemonic : String) (arguments : List String) (index : Nat) :
    Except LineProblem UInt32 := do
  let text ← argument mnemonic arguments index
  match readNumber? text.toList with
  | some n => return n
  | none => throw (.badNumber text)

/-- The argument at an index as a byte. -/
def byteArgument (mnemonic : String) (arguments : List String) (index : Nat) :
    Except LineProblem UInt8 := do
  let n ← numberArgument mnemonic arguments index
  if n < 256 then return n.toUInt8 else throw (.notAByte n)

/-- The argument at an index as an exit code. -/
def exitCodeArgument (mnemonic : String) (arguments : List String) (index : Nat) :
    Except LineProblem Int32 := do
  let text ← argument mnemonic arguments index
  match Text.readInt32 text.toList with
  | .ok code => return code
  | .error _ => throw (.badExitCode text)

/-- Whether the words after the size of a surface make it a primary one. -/
def primaryFlag (arguments : List String) : Except LineProblem Bool :=
  match arguments[2]? with
  | none => .ok false
  | some "primary" => .ok true
  | some other => .error (.unknownSurfaceFlag other)

/-- The name of a register as it is stored: without commas at its end, in lower case. -/
def registerName (text : String) : String :=
  Text.lower (String.ofList (Text.dropEndWhile (· == ',') text.toList))

/-- Reads an instruction from its mnemonic in lower case and its arguments. -/
def readOp (mnemonic : String) (arguments : List String) : Except LineProblem Op := do
  match mnemonic with
  | "nop" => return .nop
  | "jmp" => return .jump (← addressArgument mnemonic arguments 0)
  | "mov" =>
    let register ← argument mnemonic arguments 0
    return .move (registerName register) (← numberArgument mnemonic arguments 1)
  | "loop" => return .loop (← addressArgument mnemonic arguments 0)
  | "time" => return .time
  | "write" => return .write (← argument mnemonic arguments 0)
  | "writeln" => return .writeLine (← argument mnemonic arguments 0)
  | "exit" => return .exit (← exitCodeArgument mnemonic arguments 0)
  | "window" =>
    let title ← argument mnemonic arguments 0
    let width ← numberArgument mnemonic arguments 1
    return .window title width (← numberArgument mnemonic arguments 2)
  | "surface" =>
    let width ← numberArgument mnemonic arguments 0
    let height ← numberArgument mnemonic arguments 1
    return .surface width height (← primaryFlag arguments)
  | "fill" => return .fill (← byteArgument mnemonic arguments 0)
  | "flip" => return .flip
  | "poke" =>
    let address ← addressArgument mnemonic arguments 0
    return .poke address (← byteArgument mnemonic arguments 1)
  | "fault" => return .fault (" ".intercalate arguments)
  | other => throw (.unknownInstruction other)

/-- Reads the words of a line; a line without words holds no instruction. -/
def readWords : List String → Except LineProblem (Option (Address × Op))
  | [] => .ok none
  | first :: rest =>
    match Address.parse? first, rest with
    | none, _ => .error (.badAddress first)
    | some _, [] => .error .missingInstruction
    | some address, mnemonic :: arguments => do
      return some (address, ← readOp (Text.lower mnemonic) arguments)

/-- Reads a line; a blank line or a comment holds no instruction. -/
def readLine (line : List Char) : Except LineProblem (Option (Address × Op)) :=
  match Text.words (beforeComment false line) with
  | none => .error .unbalancedQuotes
  | some words => readWords words

/-- Reads the remaining lines, of which the first has the given number. -/
def readLines (number : Nat) (ops : AddressMap Op) :
    List (List Char) → Except ListingError Listing
  | [] => if ops.isEmpty then .error .empty else .ok ⟨ops⟩
  | line :: rest =>
    match readLine line with
    | .error problem => .error (.badLine number problem)
    | .ok none => readLines (number + 1) ops rest
    | .ok (some (address, op)) =>
      if address ∈ ops then .error (.duplicate number address)
      else readLines (number + 1) (ops.insert address op) rest

/-- Reads a listing. -/
def parse (text : String) : Except ListingError Listing :=
  readLines 1 ∅ (Text.lines text.toList)

end Listing

end GuestDebugger
