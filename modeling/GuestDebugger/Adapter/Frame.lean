import GuestDebugger.Adapter.Message
import GuestDebugger.Text.Blank

/-! # Framing of messages

On the wire a message is a block of header lines and a body. One header line tells the length of
the body in bytes, others are passed over, and a blank line ends the block; blank lines before the
block are passed over too. A frame that holds no message is taken off the input like any other, so
reading may go on behind it. -/

namespace GuestDebugger.Adapter

/-- Why no message was read. -/
inductive FrameError where
  /-- The length of the body is no number. -/
  | badLength
  /-- A header line is no UTF-8. -/
  | headerNotUtf8
  /-- The input ends inside the body. -/
  | bodyTooShort
  /-- The body is no message. -/
  | badBody (error : Json.ReadError)
deriving DecidableEq, Repr

/-- Whether the input ended where more was needed. All other failures leave the input behind what
could not be read. -/
def FrameError.isEndOfInput : FrameError → Bool
  | bodyTooShort => true
  | badBody .endOfInput => true
  | _ => false

namespace Frame

/-- The name of the header line that tells the length of the body, and its colon. -/
def lengthField : List Char := "Content-Length:".toList

/-- What follows the name of the length field in a line, if the line begins with it. -/
def lengthText? (line : List Char) : Option (List Char) :=
  if lengthField.isPrefixOf line then some (Text.trim (line.drop lengthField.length)) else none

/-- What a header line means. -/
inductive HeaderLine where
  /-- The block ends here, or has not begun yet. -/
  | blank
  /-- The body has this length. -/
  | length (n : Nat)
  /-- The line is passed over. -/
  | other
deriving DecidableEq, Repr

/-- Reads a header line. -/
def readHeaderLine (line : List UInt8) : Except FrameError HeaderLine :=
  match Text.decode? line with
  | none => .error .headerNotUtf8
  | some text =>
    let line := Text.trimEnd text.toList
    if line.isEmpty then .ok .blank
    else match lengthText? line with
      | none => .ok .other
      | some digits =>
        match Text.readUnsigned 10 UInt64.size digits with
        | .ok n => .ok (.length n)
        | .error _ => .error .badLength

/-- What is known after a header line. -/
inductive HeaderProgress where
  /-- The block goes on; the length of the body may be known. -/
  | goesOn (length : Option Nat)
  /-- The block has ended. -/
  | ended (length : Nat)
  /-- The block cannot be read. -/
  | failed (error : FrameError)

/-- Takes one more header line into account. -/
def afterLine (length : Option Nat) (line : List UInt8) : HeaderProgress :=
  match readHeaderLine line, length with
  | .error e, _ => .failed e
  | .ok .blank, some n => .ended n
  | .ok .blank, none => .goesOn none
  | .ok (.length n), _ => .goesOn (some n)
  | .ok .other, _ => .goesOn length

/-- Reads a header block and gives the length of the body, or nothing at the end of the input;
and the bytes behind what was read. `line` holds the open line backwards. -/
def readHeader (length : Option Nat) (line : List UInt8) :
    List UInt8 → Except FrameError (Option Nat) × List UInt8
  | [] =>
    if line.isEmpty then (.ok none, [])
    else match afterLine length line.reverse with
      | .failed e => (.error e, [])
      | .ended n => (.ok (some n), [])
      | .goesOn _ => (.ok none, [])
  | b :: rest =>
    if b == 10 then
      match afterLine length line.reverse with
      | .failed e => (.error e, rest)
      | .ended n => (.ok (some n), rest)
      | .goesOn length => readHeader length [] rest
    else readHeader length (b :: line) rest

/-- Reads a frame and gives its body, or nothing at the end of the input; and the bytes behind
it. -/
def readBody (input : List UInt8) : Except FrameError (Option (List UInt8)) × List UInt8 :=
  match readHeader none [] input with
  | (.error e, rest) => (.error e, rest)
  | (.ok none, rest) => (.ok none, rest)
  | (.ok (some n), rest) =>
    if rest.length < n then (.error .bodyTooShort, []) else (.ok (some (rest.take n)), rest.drop n)

/-- Reads a message, or nothing at the end of the input; and gives the bytes behind its frame. -/
def readMessage (input : List UInt8) : Except FrameError (Option Message) × List UInt8 :=
  match readBody input with
  | (.error e, rest) => (.error e, rest)
  | (.ok none, rest) => (.ok none, rest)
  | (.ok (some body), rest) =>
    match Message.parse body with
    | .ok m => (.ok (some m), rest)
    | .error e => (.error (.badBody e), rest)

/-- The frame of a body. -/
def ofBody (body : String) : String :=
  "Content-Length: " ++ toString body.utf8ByteSize ++ "\r\n\r\n" ++ body

end Frame

/-- The frame of a message. -/
def Message.frame (m : Message) : String := Frame.ofBody m.text

end GuestDebugger.Adapter
