/-! # JSON values

Numbers keep their kind: whole numbers of 64 bits without and with a sign, and doubles. The
fields of an object are kept in ascending order of their names, each name once. -/

namespace GuestDebugger

/-- A JSON number. -/
inductive Json.Number where
  /-- A whole number from zero to `2 ^ 64 - 1`. -/
  | natural (n : UInt64)
  /-- A whole number from `-2 ^ 63` to `-1`. -/
  | negative (n : Int64)
  /-- A double. -/
  | double (x : Float)

/-- A JSON value. -/
inductive Json where
  /-- The absent value. -/
  | null
  /-- A truth value. -/
  | bool (b : Bool)
  /-- A number. -/
  | number (n : Json.Number)
  /-- A text. -/
  | string (s : String)
  /-- A sequence of values. -/
  | array (items : List Json)
  /-- Named values, in ascending order of the names. -/
  | object (fields : List (String × Json))

namespace Json

/-- Puts a field in its place; an earlier one of the same name is replaced. -/
def insertField (name : String) (value : Json) : List (String × Json) → List (String × Json)
  | [] => [(name, value)]
  | field :: rest =>
    if name < field.1 then (name, value) :: field :: rest
    else if name = field.1 then (name, value) :: rest
    else field :: insertField name value rest

/-- The fields in order; of fields with one name the last stays. -/
def sortFields (fields : List (String × Json)) : List (String × Json) :=
  fields.foldl (fun sorted field => insertField field.1 field.2 sorted) []

/-- The object with the given fields; of fields with one name the last stays. -/
def ofFields (fields : List (String × Json)) : Json := .object (sortFields fields)

/-- A whole number. -/
def ofNat (n : Nat) : Json := .number (.natural (UInt64.ofNat n))

/-- A whole number with a sign. -/
def ofInt (n : Int) : Json :=
  if 0 ≤ n then ofNat n.toNat else .number (.negative (Int64.ofInt n))

/-- The field of an object, if there is one. -/
def field? (value : Json) (name : String) : Option Json :=
  match value with
  | .object fields => fields.lookup name
  | _ => none

/-- The text, if the value is one. -/
def string? : Json → Option String
  | .string s => some s
  | _ => none

/-- The truth value, if the value is one. -/
def bool? : Json → Option Bool
  | .bool b => some b
  | _ => none

/-- The items, if the value is an array. -/
def array? : Json → Option (List Json)
  | .array items => some items
  | _ => none

/-- The number, if the value is whole and not negative. -/
def natural? : Json → Option UInt64
  | .number (.natural n) => some n
  | _ => none

/-- The number of values of 64 bits with a sign that are not negative. -/
def int64Bound : Nat := UInt64.size / 2

/-- The number, if the value is whole and fits in 64 bits with a sign. -/
def int64? : Json → Option Int64
  | .number (.natural n) => if n.toNat < int64Bound then some n.toInt64 else none
  | .number (.negative n) => some n
  | _ => none

end Json

end GuestDebugger
