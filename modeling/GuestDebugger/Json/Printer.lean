import GuestDebugger.Decimal.Shortest
import GuestDebugger.Json.Basic
import GuestDebugger.Text.Hex

/-! # Compact JSON texts

There are no blanks between the parts of a value. Doubles are written with the fewest digits that
read back, positionally while the decimal point stays near the digits and with an exponent
otherwise. Texts escape quotes, backslashes and control characters, and nothing else. -/

namespace GuestDebugger.Json

/-- The digits of a positive number whose decimal point stands after the first `point` of them. An
exponent carries its sign. -/
def doubleDigits (digits : String) (point : Int) : String :=
  let length : Int := digits.length
  if length ≤ point ∧ point ≤ 16 then
    digits ++ "".pushn '0' (point - length).toNat ++ ".0"
  else if 0 < point ∧ point ≤ 16 then
    String.ofList (digits.toList.take point.toNat) ++ "."
      ++ String.ofList (digits.toList.drop point.toNat)
  else if -5 < point ∧ point ≤ 0 then
    "0." ++ "".pushn '0' (-point).toNat ++ digits
  else
    let first := String.ofList (digits.toList.take 1)
    let rest := String.ofList (digits.toList.drop 1)
    let fraction := if rest.isEmpty then "" else "." ++ rest
    first ++ fraction ++ (if 0 < point then "e+" else "e") ++ toString (point - 1)

/-- The text of a double; a value that is not finite is written as the absent value. -/
def doubleText (x : Float) : String :=
  let sign := if Decimal.signBit x then "-" else ""
  match Decimal.magnitude x with
  | .finite b =>
    if b.mantissa = 0 then sign ++ "0.0"
    else
      let d := (Decimal.shortest b).normalize
      let digits := toString d.digits
      sign ++ doubleDigits digits (digits.length + d.exponent)
  | _ => "null"

/-- The text of a number. -/
def Number.text : Number → String
  | .natural n => toString n.toNat
  | .negative n => toString n.toInt
  | .double x => doubleText x

/-- The written form of a character in a JSON text. -/
def escapeChar (c : Char) : String :=
  if c = '"' then "\\\""
  else if c = '\\' then "\\\\"
  else if c = '\n' then "\\n"
  else if c = '\r' then "\\r"
  else if c = '\t' then "\\t"
  else if c = '\x08' then "\\b"
  else if c = '\x0c' then "\\f"
  else if c.toNat < 0x20 then "\\u" ++ Text.paddedHex 4 c.toNat
  else c.toString

/-- The quoted form of a text. -/
def stringText (s : String) : String :=
  s.foldl (fun text c => text ++ escapeChar c) "\"" ++ "\""

theorem stringText_eq_foldl (s : String) :
    stringText s = s.toList.foldl (fun text c => text ++ escapeChar c) "\"" ++ "\"" := by
  rw [stringText, String.foldl_eq_foldl_toList]

mutual

/-- The compact text of a value. -/
def text : Json → String
  | .null => "null"
  | .bool b => if b then "true" else "false"
  | .number n => n.text
  | .string s => stringText s
  | .array items => "[" ++ ",".intercalate (itemTexts items) ++ "]"
  | .object fields => "\x7b" ++ ",".intercalate (fieldTexts fields) ++ "\x7d"

/-- The texts of the items of an array. -/
def itemTexts : List Json → List String
  | [] => []
  | item :: rest => item.text :: itemTexts rest

/-- The texts of the fields of an object. -/
def fieldTexts : List (String × Json) → List String
  | [] => []
  | (name, value) :: rest => (stringText name ++ ":" ++ value.text) :: fieldTexts rest

end

end GuestDebugger.Json
