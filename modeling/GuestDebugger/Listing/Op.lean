import GuestDebugger.Address
import GuestDebugger.Text.Quoted

/-! # Guest instructions

The instructions of a listing and their written form, which is also how they are shown by the
disassembler. -/

namespace GuestDebugger

/-- One guest instruction. -/
inductive Op where
  /-- Does nothing. -/
  | nop
  /-- Goes on at another address. -/
  | jump (target : Address)
  /-- Sets a register. -/
  | move (register : String) (value : UInt32)
  /-- Decrements the loop counter and goes on at another address while it is not zero. -/
  | loop (target : Address)
  /-- Asks the host for the time. -/
  | time
  /-- Writes a text. -/
  | write (text : String)
  /-- Writes a text and a line feed. -/
  | writeLine (text : String)
  /-- Ends the program. -/
  | exit (code : Int32)
  /-- Opens a window. -/
  | window (title : String) (width height : UInt32)
  /-- Creates a surface, a primary one for the last window. -/
  | surface (width height : UInt32) (primary : Bool)
  /-- Paints the last surface with one byte value. -/
  | fill (byte : UInt8)
  /-- Presents the back buffer of the last surface. -/
  | flip
  /-- Stores a byte in guest memory. -/
  | poke (address : Address) (byte : UInt8)
  /-- Fails with a message. -/
  | fault (message : String)
deriving DecidableEq, Repr

/-- The written form of an instruction. -/
def Op.text : Op → String
  | nop => "nop"
  | jump target => "jmp " ++ target.text
  | move register value => "mov " ++ register ++ ", 0x" ++ Text.hex value.toNat
  | loop target => "loop " ++ target.text
  | time => "time"
  | write text => "write " ++ Text.quoted text
  | writeLine text => "writeln " ++ Text.quoted text
  | exit code => "exit " ++ toString code.toInt
  | window title width height =>
    "window " ++ Text.quoted title ++ " " ++ toString width.toNat ++ " " ++ toString height.toNat
  | surface width height primary =>
    "surface " ++ toString width.toNat ++ " " ++ toString height.toNat
      ++ (if primary then " primary" else "")
  | fill byte => "fill 0x" ++ Text.paddedHex 2 byte.toNat
  | flip => "flip"
  | poke address byte => "poke " ++ address.text ++ " 0x" ++ Text.paddedHex 2 byte.toNat
  | fault message => "fault " ++ Text.quoted message

end GuestDebugger
