import GuestDebugger.Json.Basic
import GuestDebugger.Text.Numeral
import GuestDebugger.Text.Utf8

/-! # Reading JSON

Readers take the value at the front of a byte sequence and give it with the bytes behind it. Two
kinds of failure are told apart: the bytes end too early, or they break the rules. Containers may
be nested 127 deep. Whole numbers beyond 64 bits become doubles. A double is the digits read as a
whole number of 64 bits, multiplied or divided by a power of ten. -/

namespace GuestDebugger.Json

/-- Why bytes are no JSON value. -/
inductive ReadError where
  /-- The bytes end inside the value. -/
  | endOfInput
  /-- The bytes break the rules of the format or of what is expected. -/
  | malformed
deriving DecidableEq, Repr

/-- Takes something from the front of a byte sequence. -/
abbrev Reader (α : Type) := List UInt8 → Except ReadError (α × List UInt8)

/-- How deep containers may be nested, plus one. -/
def depthLimit : Nat := 128

/-- The bytes after blanks. -/
def skipBlanks (bytes : List UInt8) : List UInt8 :=
  bytes.dropWhile fun b => b == 32 || b == 10 || b == 9 || b == 13

/-- Whether a byte is a decimal digit. -/
def isDigitByte (b : UInt8) : Bool := 48 ≤ b && b ≤ 57

/-- The value of a digit byte. -/
def digitValue (b : UInt8) : Nat := b.toNat - 48

/-! ### Numbers -/

/-- The greatest number of 64 bits. -/
def maxNatural : Nat := UInt64.size - 1

/-- The greatest exponent that is read as such. -/
def maxExponent : Nat := 0x7FFFFFFF

/-- Takes digits as long as the number stays within a limit. -/
def takeDigits (limit : Nat) (value : Nat) : List UInt8 → Nat × List UInt8
  | [] => (value, [])
  | b :: rest =>
    if isDigitByte b && value * 10 + digitValue b ≤ limit then
      takeDigits limit (value * 10 + digitValue b) rest
    else (value, b :: rest)

/-- Whether the next byte is a digit. -/
def startsWithDigit : List UInt8 → Bool
  | b :: _ => isDigitByte b
  | [] => false

/-- The double `significand * 10 ^ exponent`, or a failure if it is out of range. Powers of ten
beyond the greatest double are divided out step by step. -/
def scaleDouble (steps : Nat) (x : Float) (exponent : Int) : Except ReadError Float :=
  if exponent.natAbs ≤ 308 then
    let power := Float.ofScientific 1 false exponent.natAbs
    if 0 ≤ exponent then
      let scaled := x * power
      if scaled.isInf then .error .malformed else .ok scaled
    else .ok (x / power)
  else if x == 0 then .ok x
  else if 0 ≤ exponent then .error .malformed
  else match steps with
    | 0 => .ok 0
    | steps + 1 => scaleDouble steps (x / Float.ofScientific 1 false 308) (exponent + 308)

/-- The double with the given sign, digits and exponent. -/
def makeDouble (negative : Bool) (significand : Nat) (exponent : Int) : Except ReadError Number :=
  (scaleDouble 8 (UInt64.ofNat significand).toFloat exponent).map fun x =>
    .double (if negative then -x else x)

/-- Reads an exponent after its mark and ends the number. -/
def readExponent (negative : Bool) (significand : Nat) (start : Int) : Reader Number := fun bytes =>
  let (down, bytes) := match bytes with
    | 43 :: rest => (false, rest)
    | 45 :: rest => (true, rest)
    | _ => (false, bytes)
  match bytes with
  | [] => .error .endOfInput
  | b :: rest =>
    if !isDigitByte b then .error .malformed
    else
      let (exponent, rest) := takeDigits maxExponent (digitValue b) rest
      if startsWithDigit rest then
        if significand ≠ 0 && !down then .error .malformed
        else .ok (.double (if negative then -0.0 else 0.0), rest.dropWhile isDigitByte)
      else
        let exponent : Int := if down then start - exponent else start + exponent
        (makeDouble negative significand exponent).map (·, rest)

/-- Reads an exponent, if its mark follows, and ends the number. -/
def readOptionalExponent (negative : Bool) (significand : Nat) (start : Int) : Reader Number :=
  fun bytes => match bytes with
    | b :: rest =>
      if b == 101 || b == 69 then readExponent negative significand start rest
      else (makeDouble negative significand start).map (·, bytes)
    | [] => (makeDouble negative significand start).map (·, [])

/-- Reads the digits after a decimal point and ends the number. Digits that would take the whole
number beyond 64 bits are dropped. -/
def readFraction (negative : Bool) (significand : Nat) (start : Int) : Reader Number := fun bytes =>
  if startsWithDigit bytes then
    let (digits, rest) := takeDigits maxNatural significand bytes
    let places : Int := bytes.length - rest.length
    readOptionalExponent negative digits (start - places) (rest.dropWhile isDigitByte)
  else if bytes.isEmpty then .error .endOfInput
  else .error .malformed

/-- Ends a number after its whole digits, of which `dropped` did not fit in 64 bits. -/
def readAfterWhole (negative : Bool) (significand : Nat) (dropped : Nat) : Reader Number :=
  fun bytes =>
    let whole : Except ReadError Number :=
      if dropped ≠ 0 then makeDouble negative significand dropped
      else if !negative then .ok (.natural (UInt64.ofNat significand))
      else if significand ≠ 0 && significand ≤ int64Bound then
        .ok (.negative (Int64.ofInt (-significand)))
      else .ok (.double (-(UInt64.ofNat significand).toFloat))
    match bytes with
    | b :: rest =>
      if b == 46 then readFraction negative significand dropped rest
      else if b == 101 || b == 69 then readExponent negative significand dropped rest
      else whole.map (·, bytes)
    | [] => whole.map (·, [])

/-- Reads a number after its sign. -/
def readNumber (negative : Bool) : Reader Number := fun bytes =>
  match bytes with
  | [] => .error .endOfInput
  | b :: rest =>
    if b == 48 then
      if startsWithDigit rest then .error .malformed
      else readAfterWhole negative 0 0 rest
    else if isDigitByte b then
      let (significand, rest) := takeDigits maxNatural (digitValue b) rest
      let after := rest.dropWhile isDigitByte
      readAfterWhole negative significand (rest.length - after.length) after
    else .error .malformed

/-! ### Texts -/

/-- The value of four hexadecimal digits. -/
def fourHexDigits (a b c d : UInt8) : Option Nat := do
  let value (b : UInt8) : Option Nat := Text.digit? 16 (Char.ofNat b.toNat)
  return ((← value a) * 16 + (← value b)) * 256 + (← value c) * 16 + (← value d)

/-- Reads four hexadecimal digits. -/
def readFourHexDigits : Reader Nat
  | a :: b :: c :: d :: rest =>
    match fourHexDigits a b c d with
    | some n => .ok (n, rest)
    | none => .error .malformed
  | _ => .error .endOfInput

/-- Reads one expected byte. -/
def readByte (expected : UInt8) : Reader Unit
  | [] => .error .endOfInput
  | b :: rest => if b == expected then .ok ((), rest) else .error .malformed

/-- Reads a code point escape after its mark. Two escapes together stand for one character beyond
the first plane; half of such a pair is malformed. -/
def readCodePoint : Reader Char := fun bytes => do
  let (high, bytes) ← readFourHexDigits bytes
  if high < 0xD800 || 0xDFFF < high then return (Char.ofNat high, bytes)
  else if 0xDC00 ≤ high then .error .malformed
  else
    let (_, bytes) ← readByte 92 bytes
    let (_, bytes) ← readByte 117 bytes
    let (low, bytes) ← readFourHexDigits bytes
    if low < 0xDC00 || 0xDFFF < low then .error .malformed
    else return (Char.ofNat (0x10000 + (high - 0xD800) * 1024 + (low - 0xDC00)), bytes)

/-- The character of a short escape. -/
def shortEscape? (b : UInt8) : Option Char :=
  [(34, '"'), (92, '\\'), (47, '/'), (98, '\x08'), (102, '\x0c'), (110, '\n'), (114, '\r'),
    (116, '\t')].lookup b

/-- Reads an escape after its backslash. -/
def readEscape : Reader Char
  | [] => .error .endOfInput
  | b :: rest =>
    if b == 117 then readCodePoint rest
    else match shortEscape? b with
      | some c => .ok (c, rest)
      | none => .error .malformed

/-- Reads the rest of a text, where `before` holds its bytes so far backwards. They are decoded
at the closing quote. -/
def readStringRest : (fuel : Nat) → (before : List UInt8) → Reader String
  | 0, _ => fun _ => .error .malformed
  | fuel + 1, before => fun bytes => match bytes with
    | [] => .error .endOfInput
    | b :: rest =>
      if b == 34 then
        match Text.decode? before.reverse with
        | some s => .ok (s, rest)
        | none => .error .malformed
      else if b == 92 then do
        let (c, rest) ← readEscape rest
        readStringRest fuel ((Text.encode c.toString).reverse ++ before) rest
      else if b < 32 then .error .malformed
      else readStringRest fuel (b :: before) rest

/-- Reads a text after its opening quote. -/
def readString : Reader String := fun bytes => readStringRest (bytes.length + 1) [] bytes

/-! ### Values -/

/-- Reads the rest of a word that is known by its first letter. -/
def readWord : List UInt8 → Reader Unit
  | [] => fun bytes => .ok ((), bytes)
  | expected :: more => fun bytes => do
    let (_, bytes) ← readByte expected bytes
    readWord more bytes

/-- Reads a value that holds no other values, after its first byte `b`. There is none if `b`
begins no such value. -/
def readScalar (b : UInt8) : Reader (Option Json) := fun bytes =>
  if b == 110 then (readWord [117, 108, 108] bytes).map fun r => (some .null, r.2)
  else if b == 116 then (readWord [114, 117, 101] bytes).map fun r => (some (.bool true), r.2)
  else if b == 102 then
    (readWord [97, 108, 115, 101] bytes).map fun r => (some (.bool false), r.2)
  else if b == 34 then (readString bytes).map fun r => (some (.string r.1), r.2)
  else if b == 45 then (readNumber true bytes).map fun r => (some (.number r.1), r.2)
  else if isDigitByte b then (readNumber false (b :: bytes)).map fun r => (some (.number r.1), r.2)
  else .ok (none, bytes)

/-- What follows where a container may end. -/
inductive Continuation where
  /-- The container ends. -/
  | done
  /-- Another element follows. -/
  | more
deriving DecidableEq, Repr

/-- Reads up to the next element of a container or to its end. Elements stand apart by a comma. -/
def readContinuation (closing : UInt8) (first : Bool) : Reader Continuation := fun bytes =>
  match skipBlanks bytes with
  | [] => .error .endOfInput
  | b :: rest =>
    if b == closing then .ok (.done, rest)
    else if first then .ok (.more, b :: rest)
    else if b == 44 then
      match skipBlanks rest with
      | [] => .error .endOfInput
      | b :: rest => if b == closing then .error .malformed else .ok (.more, b :: rest)
    else .error .malformed

/-- Reads the name of a field. -/
def readFieldName : Reader String := fun bytes => do
  let (_, bytes) ← readByte 34 bytes
  readString bytes

/-- Reads the colon between the name and the value of a field. -/
def readColon : Reader Unit := fun bytes => readByte 58 (skipBlanks bytes)

mutual

/-- Reads a value in which containers may be nested less than `depth` deep. -/
def readValue : (fuel : Nat) → (depth : Nat) → Reader Json
  | 0, _ => fun _ => .error .malformed
  | fuel + 1, depth => fun bytes =>
    match skipBlanks bytes with
    | [] => .error .endOfInput
    | b :: rest =>
      if b == 91 || b == 123 then
        match depth with
        | 0 | 1 => .error .malformed
        | depth + 1 =>
          if b == 91 then (readItems fuel depth true rest).map fun r => (.array r.1, r.2)
          else (readFields fuel depth true rest).map fun r => (.ofFields r.1, r.2)
      else do
        match ← readScalar b rest with
        | (some value, rest) => return (value, rest)
        | (none, _) => .error .malformed

/-- Reads the items of an array after its opening bracket. -/
def readItems : (fuel : Nat) → (depth : Nat) → (first : Bool) → Reader (List Json)
  | 0, _, _ => fun _ => .error .malformed
  | fuel + 1, depth, first => fun bytes => do
    match ← readContinuation 93 first bytes with
    | (.done, rest) => return ([], rest)
    | (.more, rest) =>
      let (item, rest) ← readValue fuel depth rest
      let (items, rest) ← readItems fuel depth false rest
      return (item :: items, rest)

/-- Reads the fields of an object after its opening brace. -/
def readFields : (fuel : Nat) → (depth : Nat) → (first : Bool) → Reader (List (String × Json))
  | 0, _, _ => fun _ => .error .malformed
  | fuel + 1, depth, first => fun bytes => do
    match ← readContinuation 125 first bytes with
    | (.done, rest) => return ([], rest)
    | (.more, rest) =>
      let (name, rest) ← readFieldName rest
      let (_, rest) ← readColon rest
      let (value, rest) ← readValue fuel depth rest
      let (fields, rest) ← readFields fuel depth false rest
      return ((name, value) :: fields, rest)

end

/-- A bound on the steps needed to read a value: each byte takes at most two. -/
def readFuel (bytes : List UInt8) : Nat := 2 * bytes.length + 2

/-- Fails unless only blanks are left. -/
def readEnd (bytes : List UInt8) : Except ReadError Unit :=
  if (skipBlanks bytes).isEmpty then .ok () else .error .malformed

/-- Reads the one value that all bytes stand for. -/
def parse (bytes : List UInt8) : Except ReadError Json := do
  let (value, rest) ← readValue (readFuel bytes) depthLimit bytes
  readEnd rest
  return value

end GuestDebugger.Json
