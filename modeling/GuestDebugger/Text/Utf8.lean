/-! # Decoding of UTF-8

Bytes are read one at a time. What they stand for is a sequence of characters and of invalid
parts, each as long as it could still have begun a character. Strict decoding fails if there is an
invalid part, lossy decoding puts the replacement character in its place. -/

namespace GuestDebugger.Text

/-- An open multi-byte character. -/
structure OpenChar where
  /-- The bits read so far. -/
  bits : Nat
  /-- How many bytes are still to come. -/
  missing : Nat
  /-- The least value the next byte may have. -/
  least : UInt8
  /-- The greatest value the next byte may have. -/
  greatest : UInt8
deriving DecidableEq, Repr

/-- What a decoder gives for one or more bytes: a character, or an invalid part. -/
abbrev Decoded := Option Char

/-- Reads a byte where a character begins. -/
def firstByte (b : UInt8) : List Decoded × Option OpenChar :=
  let n := b.toNat
  if n < 0x80 then ([some (Char.ofNat n)], none)
  else if n < 0xC2 then ([none], none)
  else if n < 0xE0 then ([], some ⟨n - 0xC0, 1, 0x80, 0xBF⟩)
  else if n < 0xF0 then
    ([], some ⟨n - 0xE0, 2, if n = 0xE0 then 0xA0 else 0x80, if n = 0xED then 0x9F else 0xBF⟩)
  else if n < 0xF5 then
    ([], some ⟨n - 0xF0, 3, if n = 0xF0 then 0x90 else 0x80, if n = 0xF4 then 0x8F else 0xBF⟩)
  else ([none], none)

/-- Reads a byte after those of an open character, if there is one. A byte that does not fit ends
the invalid part before it and begins anew. -/
def nextByte (pending : Option OpenChar) (b : UInt8) : List Decoded × Option OpenChar :=
  match pending with
  | none => firstByte b
  | some p =>
    if p.least ≤ b ∧ b ≤ p.greatest then
      let bits := p.bits * 64 + b.toNat % 64
      if p.missing ≤ 1 then ([some (Char.ofNat bits)], none)
      else ([], some ⟨bits, p.missing - 1, 0x80, 0xBF⟩)
    else
      let (out, pending) := firstByte b
      (none :: out, pending)

/-- Decodes the remaining bytes. -/
def decodeFrom (pending : Option OpenChar) : List UInt8 → List Decoded
  | [] => if pending.isSome then [none] else []
  | b :: rest =>
    let (out, pending) := nextByte pending b
    out ++ decodeFrom pending rest

/-- The text that bytes stand for, or none if a part of them is invalid. -/
def decode? (bytes : List UInt8) : Option String :=
  ((decodeFrom none bytes).mapM id).map String.ofList

/-- The text that bytes stand for, each invalid part replaced by U+FFFD. -/
def decodeLossy (bytes : List UInt8) : String :=
  String.ofList ((decodeFrom none bytes).map (·.getD '\uFFFD'))

/-- The bytes of a text. -/
def encode (text : String) : List UInt8 := text.toUTF8.toList

end GuestDebugger.Text
