import GuestDebugger.Breakpoints
import GuestDebugger.Json.Basic

/-! # Settings

How batches grow, and what is launched. Settings are read from JSON: unknown fields are passed
over, missing ones take their default, and `null` stands only for an optional value. Plain
settings may also be given as an array of their fields in order, of which the last ones may be
missing. -/

namespace GuestDebugger

/-- How batch stepping adapts. -/
structure StepSettings where
  /-- The number of instructions in the first batch. Zero counts as one. -/
  initialBatchSize : UInt32 := 1000
  /-- Batches that take less than this many milliseconds double the next one. -/
  fastBatchMs : Float := 10
deriving Inhabited

/-- What is launched. -/
structure LaunchSettings where
  /-- The file with the guest listing. -/
  program : String
  /-- The file with the labels. -/
  labels : Option String := none
  /-- Whether execution waits at the entry of the program. -/
  stopOnEntry : Bool := true
  /-- How batch stepping adapts. -/
  stepping : StepSettings := {}

/-- Why a JSON value holds no settings. -/
inductive SettingsError where
  /-- The value is neither an object nor, where one is allowed, an array. -/
  | wrongShape
  /-- There are more items than fields. -/
  | tooManyItems
  /-- A field that is needed is missing. -/
  | missing (field : String)
  /-- A field holds a value of another kind. -/
  | wrongKind (field : String)
deriving DecidableEq, Repr

/-- What is told to the user about refused settings. -/
def SettingsError.message : SettingsError → String
  | wrongShape => "settings must be an object"
  | tooManyItems => "too many items"
  | missing field => "missing field " ++ field
  | wrongKind field => "wrong kind of value for " ++ field

namespace Json

/-- The value as a whole number of 32 bits. -/
def uint32? (v : Json) : Option UInt32 :=
  v.natural?.bind fun n => if n.toNat < UInt32.size then some n.toUInt32 else none

/-- The value as a double. -/
def double? : Json → Option Float
  | .number (.natural n) => some n.toFloat
  | .number (.negative n) => some (Float.ofInt n.toInt)
  | .number (.double x) => some x
  | _ => none

end Json

/-- Reads the value of a field that has a default. -/
def fieldOr {α : Type} (name : String) (read : Json → Option α) (default : α) :
    Option Json → Except SettingsError α
  | none => .ok default
  | some v =>
    match read v with
    | some x => .ok x
    | none => .error (.wrongKind name)

/-- The values of the named fields of plain settings, each there or not. -/
def plainFields (names : List String) : Json → Except SettingsError (List (Option Json))
  | .object fields => .ok (names.map (fields.lookup ·))
  | .array items =>
    if names.length < items.length then .error .tooManyItems
    else .ok (items.map some ++ List.replicate (names.length - items.length) none)
  | _ => .error .wrongShape

namespace StepSettings

/-- Reads the settings from their two fields. -/
def ofFields (size fast : Option Json) : Except SettingsError StepSettings := do
  let other : StepSettings := {}
  let initialBatchSize ← fieldOr "initialBatchSize" Json.uint32? other.initialBatchSize size
  let fastBatchMs ← fieldOr "fastBatchMs" Json.double? other.fastBatchMs fast
  return { initialBatchSize, fastBatchMs }

/-- Reads the settings. -/
def ofJson (v : Json) : Except SettingsError StepSettings := do
  match ← plainFields ["initialBatchSize", "fastBatchMs"] v with
  | [size, fast] => ofFields size fast
  | _ => throw .wrongShape

end StepSettings

/-- Reads the properties of a breakpoint. -/
def BreakpointFlags.ofJson (v : Json) : Except SettingsError BreakpointFlags := do
  match ← plainFields ["temporary", "oneShot"] v with
  | [temporary, oneShot] =>
    return { temporary := ← fieldOr "temporary" Json.bool? false temporary
             oneShot := ← fieldOr "oneShot" Json.bool? false oneShot }
  | _ => throw .wrongShape

namespace LaunchSettings

/-- The files that are read for a launch. -/
def files (s : LaunchSettings) : List String := s.program :: s.labels.toList

/-- The value as an optional text. -/
def optionalText? : Json → Option (Option String)
  | .null => some none
  | .string s => some (some s)
  | _ => none

/-- Reads what is launched. The settings for stepping stand among the other fields. -/
def ofJson : Json → Except SettingsError LaunchSettings
  | .object fields => do
    let program ← match fields.lookup "program" with
      | none => throw (.missing "program")
      | some (.string s) => pure s
      | some _ => throw (.wrongKind "program")
    let labels ← fieldOr "labels" optionalText? none (fields.lookup "labels")
    let stopOnEntry ← fieldOr "stopOnEntry" Json.bool? true (fields.lookup "stopOnEntry")
    let stepping ← StepSettings.ofFields (fields.lookup "initialBatchSize")
      (fields.lookup "fastBatchMs")
    return { program, labels, stopOnEntry, stepping }
  | _ => .error .wrongShape

end LaunchSettings

end GuestDebugger
