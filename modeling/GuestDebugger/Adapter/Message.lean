import GuestDebugger.Json.Printer
import GuestDebugger.Json.Reader

/-! # Messages of the debug adapter

A message carries a number, the name of its kind, and a content. Which content a message has is
decided by its fields alone: a request has a command; failing that, a response has the number of
its request, its outcome and its command; failing that, an event has a name. -/

namespace GuestDebugger.Adapter

/-- What a message says. -/
inductive Content where
  /-- Asks for something. -/
  | request (command : String) (arguments : Option Json)
  /-- Answers a request. -/
  | response (requestSeq : UInt64) (success : Bool) (command : String) (message : Option String)
      (body : Option Json)
  /-- Tells what happened. -/
  | event (name : String) (body : Option Json)

/-- A message. -/
structure Message where
  /-- The number of the message. -/
  seq : UInt64
  /-- The name of its kind. -/
  kind : String
  /-- What it says. -/
  content : Content

namespace Content

/-- The name of the kind of a content. -/
def kind : Content → String
  | request .. => "request"
  | response .. => "response"
  | event .. => "event"

/-- A response to a request that was carried out. -/
def success (seq : UInt64) (command : String) (body : Option Json) : Content :=
  .response seq true command none body

/-- A response to a request that was refused. -/
def failure (seq : UInt64) (command : String) (message : String) : Content :=
  .response seq false command (some message) none

/-- The fields of a content in the order in which they are written. -/
def fields : Content → List (String × Json)
  | request command arguments =>
    [("command", .string command), ("arguments", arguments.getD .null)]
  | response requestSeq success command message body =>
    [("request_seq", .number (.natural requestSeq)), ("success", .bool success),
      ("command", .string command), ("message", (message.map Json.string).getD .null),
      ("body", body.getD .null)]
  | event name body => [("event", .string name), ("body", body.getD .null)]

end Content

/-- The value of a field that occurs at most once. -/
inductive Occurrence where
  /-- The field does not occur. -/
  | absent
  /-- The field occurs once. -/
  | once (value : Json)
  /-- The field occurs more than once. -/
  | repeated

/-- How often a field occurs. -/
def occurrence (name : String) (fields : List (String × Json)) : Occurrence :=
  match fields.filter (·.1 = name) with
  | [] => .absent
  | [field] => .once field.2
  | _ => .repeated

namespace Occurrence

/-- The value of a field that must occur. -/
def required? : Occurrence → Option Json
  | once value => some value
  | _ => none

/-- The value of a field that may be left out or be `null`. -/
def optional? : Occurrence → Option (Option Json)
  | absent => some none
  | once .null => some none
  | once value => some (some value)
  | repeated => none

end Occurrence

namespace Content

/-- The fields as a request. -/
def request? (fields : List (String × Json)) : Option Content := do
  let command ← (← (occurrence "command" fields).required?).string?
  return .request command (← (occurrence "arguments" fields).optional?)

/-- The value of the optional text of a response. -/
def messageText? : Option Json → Option (Option String)
  | none => some none
  | some value => value.string?.map some

/-- The fields as a response. -/
def response? (fields : List (String × Json)) : Option Content := do
  let requestSeq ← (← (occurrence "request_seq" fields).required?).natural?
  let success ← (← (occurrence "success" fields).required?).bool?
  let command ← (← (occurrence "command" fields).required?).string?
  let message ← messageText? (← (occurrence "message" fields).optional?)
  return .response requestSeq success command message (← (occurrence "body" fields).optional?)

/-- The fields as an event. -/
def event? (fields : List (String × Json)) : Option Content := do
  let event ← (← (occurrence "event" fields).required?).string?
  return .event event (← (occurrence "body" fields).optional?)

/-- The content that fields stand for: the first of request, response and event that fits. -/
def ofFields? (fields : List (String × Json)) : Option Content :=
  (request? fields).or ((response? fields).or (event? fields))

end Content

namespace Message

/-- The fields of a message in the order in which they are written. -/
def fields (m : Message) : List (String × Json) :=
  ("seq", .number (.natural m.seq)) :: ("type", .string m.kind) :: m.content.fields

/-- The written form of a message. -/
def text (m : Message) : String := Json.text (.object m.fields)

/-- What is known of a message while its fields are read. -/
structure Parts where
  /-- The number. -/
  seq : Option UInt64 := none
  /-- The name of the kind. -/
  kind : Option String := none
  /-- All other fields, the last one first. -/
  others : List (String × Json) := []

/-- The message with the given parts. -/
def ofParts? (parts : Parts) : Option Message := do
  let seq ← parts.seq
  let kind ← parts.kind
  return { seq, kind, content := ← Content.ofFields? parts.others.reverse }

/-- Reads a field of a known type: what begins no value of that type is refused, but only after
numbers, words and texts were read to their end. -/
def readTyped {α : Type} (expected : Json → Option α) : Json.Reader α := fun bytes =>
  match Json.skipBlanks bytes with
  | [] => .error .endOfInput
  | b :: rest => do
    match ← Json.readScalar b rest with
    | (some value, rest) =>
      match expected value with
      | some x => return (x, rest)
      | none => throw .malformed
    | (none, _) => throw .malformed

/-- Reads the field with a given name, which was read last. The number and the kind occur once. -/
def readField (parts : Parts) (name : String) : Json.Reader Parts := fun bytes =>
  if name = "seq" then
    if parts.seq.isSome then .error .malformed
    else do
      let (_, bytes) ← Json.readColon bytes
      let (seq, bytes) ← readTyped Json.natural? bytes
      return ({ parts with seq := some seq }, bytes)
  else if name = "type" then
    if parts.kind.isSome then .error .malformed
    else do
      let (_, bytes) ← Json.readColon bytes
      let (kind, bytes) ← readTyped Json.string? bytes
      return ({ parts with kind := some kind }, bytes)
  else do
    let (_, bytes) ← Json.readColon bytes
    let (value, bytes) ← Json.readValue (Json.readFuel bytes) (Json.depthLimit - 1) bytes
    return ({ parts with others := (name, value) :: parts.others }, bytes)

/-- Reads the fields of a message after its opening brace. -/
def readParts : (fuel : Nat) → (first : Bool) → Parts → Json.Reader Parts
  | 0, _, _ => fun _ => .error .malformed
  | fuel + 1, first, parts => fun bytes => do
    match ← Json.readContinuation 125 first bytes with
    | (.done, rest) => return (parts, rest)
    | (.more, rest) =>
      let (name, rest) ← Json.readFieldName rest
      let (parts, rest) ← readField parts name rest
      readParts fuel false parts rest

/-- Reads the message that all bytes stand for. -/
def parse (bytes : List UInt8) : Except Json.ReadError Message :=
  match Json.skipBlanks bytes with
  | 123 :: rest => do
    let (parts, rest) ← readParts (bytes.length + 1) true {} rest
    match ofParts? parts with
    | none => throw .malformed
    | some m =>
      Json.readEnd rest
      return m
  | other => do
    -- What is no object is no message, but a value that ends too early counts as that.
    let _ ← readTyped (fun _ => (none : Option Unit)) other
    throw .malformed

/-- The message that a JSON value stands for. -/
def ofJson? : Json → Option Message
  | .object fields => ofParts?
    { seq := (fields.lookup "seq").bind Json.natural?
      kind := (fields.lookup "type").bind Json.string?
      others := (fields.filter fun f => f.1 ≠ "seq" ∧ f.1 ≠ "type").reverse }
  | _ => none

end Message

end GuestDebugger.Adapter
