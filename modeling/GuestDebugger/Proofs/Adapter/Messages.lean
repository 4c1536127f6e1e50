import GuestDebugger.Adapter.Frame
import GuestDebugger.Proofs.Json.Reading

/-! # What makes a message

A message is a JSON object. Its fields give its number and the name of its kind, and all the others
together give its content. Whether that is a request is told by its command and its arguments. -/

namespace GuestDebugger

namespace Json

/-- The bytes stand for an object with these fields, as they are written. -/
def ReadsObject (bytes : List UInt8) (fields : List (String × Json)) : Prop :=
  ∃ fuel after rest, skipBlanks bytes = 123 :: after ∧
    readFields fuel (depthLimit - 1) true after = .ok (fields, rest) ∧ readEnd rest = .ok ()

theorem natural?_eq_some_iff {value : Json} {n : UInt64} :
    value.natural? = some n ↔ value = .number (.natural n) := by
  constructor
  · intro eq
    simp only [natural?] at eq
    split at eq <;> cases eq
    rfl
  · rintro rfl
    rfl

theorem string?_eq_some_iff {value : Json} {s : String} :
    value.string? = some s ↔ value = .string s := by
  constructor
  · intro eq
    simp only [string?] at eq
    split at eq <;> cases eq
    rfl
  · rintro rfl
    rfl

end Json

namespace Adapter

open Json (readValue readFields)

/-! ### Occurrences -/

/-- A field occurs among the fields of some names as it does among all. -/
theorem occurrence_filter {name : String} {keep : String × Json → Bool}
    (kept : ∀ value, keep (name, value) = true) (fields : List (String × Json)) :
    occurrence name (fields.filter keep) = occurrence name fields := by
  have same : (fields.filter keep).filter (·.1 = name) = fields.filter (·.1 = name) := by
    rw [List.filter_filter]
    refine List.filter_congr fun field _ => ?_
    by_cases here : field.1 = name
    · subst here
      simp [kept field.2]
    · simp [here]
  simp only [occurrence, same]

theorem occurrence_of_filter {name : String} {value : Json} {fields : List (String × Json)}
    (only : fields.filter (·.1 = name) = [(name, value)]) :
    occurrence name fields = .once value := by
  simp only [occurrence, only]

/-! ### The content -/

namespace Content

/-- The content depends only on the fields that are neither the number nor the kind. -/
theorem ofFields?_filter {keep : String × Json → Bool}
    (kept : ∀ name value, name ≠ "seq" → name ≠ "type" → keep (name, value) = true)
    (fields : List (String × Json)) : ofFields? (fields.filter keep) = ofFields? fields := by
  have same : ∀ name, name ≠ "seq" → name ≠ "type" →
      occurrence name (fields.filter keep) = occurrence name fields :=
    fun name seq type => occurrence_filter (kept name · seq type) fields
  simp only [ofFields?, request?, response?, event?,
    same "command" (by decide) (by decide), same "arguments" (by decide) (by decide),
    same "request_seq" (by decide) (by decide), same "success" (by decide) (by decide),
    same "message" (by decide) (by decide), same "body" (by decide) (by decide),
    same "event" (by decide) (by decide)]

/-- Fields that make a request: one command, which is a text, and arguments at most once. -/
def NamesCommand (fields : List (String × Json)) : Prop :=
  (∃ command, occurrence "command" fields = .once (.string command)) ∧
    occurrence "arguments" fields ≠ .repeated

theorem required?_eq_some_iff {o : Occurrence} {value : Json} :
    o.required? = some value ↔ o = .once value := by
  cases o <;> simp [Occurrence.required?]

theorem exists_optional?_iff {o : Occurrence} :
    (∃ value, o.optional? = some value) ↔ o ≠ .repeated := by
  cases o with
  | absent => simp [Occurrence.optional?]
  | repeated => simp [Occurrence.optional?]
  | once value => cases value <;> simp [Occurrence.optional?]

theorem request?_eq_some_iff {fields : List (String × Json)} {content : Content} :
    request? fields = some content ↔ ∃ command arguments,
      occurrence "command" fields = .once (.string command) ∧
      (occurrence "arguments" fields).optional? = some arguments ∧
      content = .request command arguments := by
  simp only [request?, Option.bind_eq_bind, Option.bind_eq_some_iff, required?_eq_some_iff,
    Json.string?_eq_some_iff, Option.pure_def, Option.some.injEq]
  constructor
  · rintro ⟨_, once, command, rfl, arguments, optional, rfl⟩
    exact ⟨command, arguments, once, optional, rfl⟩
  · rintro ⟨command, arguments, once, optional, rfl⟩
    exact ⟨_, once, command, rfl, arguments, optional, rfl⟩

theorem exists_request?_iff {fields : List (String × Json)} :
    (∃ content, request? fields = some content) ↔ NamesCommand fields := by
  simp only [request?_eq_some_iff, NamesCommand, ← exists_optional?_iff]
  constructor
  · rintro ⟨_, command, arguments, once, optional, -⟩
    exact ⟨⟨command, once⟩, arguments, optional⟩
  · rintro ⟨⟨command, once⟩, arguments, optional⟩
    exact ⟨_, command, arguments, once, optional, rfl⟩

theorem kind_of_request? {fields : List (String × Json)} {content : Content}
    (read : request? fields = some content) : content.kind = "request" := by
  obtain ⟨command, arguments, -, -, rfl⟩ := request?_eq_some_iff.1 read
  rfl

theorem kind_of_response? {fields : List (String × Json)} {content : Content}
    (read : response? fields = some content) : content.kind = "response" := by
  simp only [response?, Option.bind_eq_bind, Option.bind_eq_some_iff, Option.pure_def,
    Option.some.injEq] at read
  obtain ⟨_, -, _, -, _, -, _, -, _, -, _, -, _, -, _, -, _, -, rfl⟩ := read
  rfl

theorem kind_of_event? {fields : List (String × Json)} {content : Content}
    (read : event? fields = some content) : content.kind = "event" := by
  simp only [event?, Option.bind_eq_bind, Option.bind_eq_some_iff, Option.pure_def,
    Option.some.injEq] at read
  obtain ⟨_, -, _, -, _, -, rfl⟩ := read
  rfl

/-- A content is a request exactly if its fields name a command: other contents are tried after
it. -/
theorem kind_eq_request_iff {fields : List (String × Json)} {content : Content}
    (read : ofFields? fields = some content) :
    content.kind = "request" ↔ NamesCommand fields := by
  rw [← exists_request?_iff]
  simp only [ofFields?] at read
  cases asRequest : request? fields with
  | some asked =>
      rw [asRequest, Option.some_or] at read
      cases read
      simp [kind_of_request? asRequest]
  | none =>
      rw [asRequest, Option.none_or] at read
      have other : content.kind ≠ "request" := by
        rcases Option.or_eq_some_iff.1 read with response | ⟨-, event⟩
        · rw [kind_of_response? response]
          decide
        · rw [kind_of_event? event]
          decide
      simp [other]

end Content

namespace Message

/-! ### The fields of a message -/

/-- What is known of a message is what the fields say that were read so far. -/
structure Parts.Holds (parts : Parts) (fields : List (String × Json)) : Prop where
  /-- The number occurs once it is known. -/
  seq : fields.filter (·.1 = "seq") =
    parts.seq.toList.map fun n => ("seq", .number (.natural n))
  /-- The name of the kind occurs once it is known. -/
  kind : fields.filter (·.1 = "type") = parts.kind.toList.map fun k => ("type", .string k)
  /-- All others are kept as they are. -/
  others : fields.filter (fun field => field.1 ≠ "seq" ∧ field.1 ≠ "type") = parts.others.reverse

variable {parts after : Parts} {fields : List (String × Json)} {bytes rest : List UInt8}

namespace Parts

theorem holds_nil : Holds {} [] := ⟨rfl, rfl, rfl⟩

theorem Holds.addSeq (holds : parts.Holds fields) (unknown : parts.seq = none) (n : UInt64) :
    Holds { parts with seq := some n } (fields ++ [("seq", .number (.natural n))]) := by
  refine ⟨?_, ?_, ?_⟩ <;> rw [List.filter_append]
  · simp [holds.seq, unknown]
  · simp [holds.kind]
  · rw [holds.others]
    simp

theorem Holds.addKind (holds : parts.Holds fields) (unknown : parts.kind = none) (k : String) :
    Holds { parts with kind := some k } (fields ++ [("type", .string k)]) := by
  refine ⟨?_, ?_, ?_⟩ <;> rw [List.filter_append]
  · simp [holds.seq]
  · simp [holds.kind, unknown]
  · rw [holds.others]
    simp

theorem Holds.addOther (holds : parts.Holds fields) {name : String} (seq : name ≠ "seq")
    (type : name ≠ "type") (value : Json) :
    Holds { parts with others := (name, value) :: parts.others } (fields ++ [(name, value)]) := by
  refine ⟨?_, ?_, ?_⟩ <;> rw [List.filter_append]
  · simp [holds.seq, seq]
  · simp [holds.kind, type]
  · rw [holds.others]
    simp [seq, type]

end Parts

/-- A field of a known type is a value like any other. -/
theorem readValue_of_readTyped {α : Type} {expected : Json → Option α} {x : α}
    (read : readTyped expected bytes = .ok (x, rest)) (fuel depth : Nat) :
    ∃ value, readValue (fuel + 1) depth bytes = .ok (value, rest) ∧ expected value = some x := by
  simp only [readTyped] at read
  split at read
  · cases read
  · rename_i b tail front
    obtain ⟨⟨scalar, tail'⟩, scalarRead, read⟩ := Except.exists_ok_of_bind read
    cases scalar with
    | none => cases read
    | some value =>
        dsimp only at read
        split at read
        · rename_i y typed
          cases read
          exact ⟨value, Json.readValue_of_readScalar front scalarRead, typed⟩
        · cases read

/-- Reading one more field reads its colon and its value, and the parts say so. -/
theorem Parts.Holds.readField {name : String} (holds : parts.Holds fields)
    (read : readField parts name bytes = .ok (after, rest)) :
    ∃ fuel value atValue, Json.readColon bytes = .ok ((), atValue) ∧
      readValue fuel (Json.depthLimit - 1) atValue = .ok (value, rest) ∧
      after.Holds (fields ++ [(name, value)]) := by
  simp only [Message.readField] at read
  split at read
  · rename_i isSeq
    subst isSeq
    split at read
    · cases read
    · rename_i unknown
      obtain ⟨⟨_, atValue⟩, colon, read⟩ := Except.exists_ok_of_bind read
      obtain ⟨⟨n, tail⟩, typed, read⟩ := Except.exists_ok_of_bind read
      cases read
      obtain ⟨value, valueRead, natural⟩ := readValue_of_readTyped typed 0 (Json.depthLimit - 1)
      obtain rfl := Json.natural?_eq_some_iff.1 natural
      exact ⟨_, _, _, colon, valueRead, holds.addSeq (by simpa using unknown) n⟩
  · rename_i notSeq
    split at read
    · rename_i isType
      subst isType
      split at read
      · cases read
      · rename_i unknown
        obtain ⟨⟨_, atValue⟩, colon, read⟩ := Except.exists_ok_of_bind read
        obtain ⟨⟨k, tail⟩, typed, read⟩ := Except.exists_ok_of_bind read
        cases read
        obtain ⟨value, valueRead, text⟩ := readValue_of_readTyped typed 0 (Json.depthLimit - 1)
        obtain rfl := Json.string?_eq_some_iff.1 text
        exact ⟨_, _, _, colon, valueRead, holds.addKind (by simpa using unknown) k⟩
    · rename_i notType
      obtain ⟨⟨_, atValue⟩, colon, read⟩ := Except.exists_ok_of_bind read
      obtain ⟨⟨value, tail⟩, valueRead, read⟩ := Except.exists_ok_of_bind read
      cases read
      exact ⟨_, _, _, colon, valueRead, holds.addOther notSeq notType value⟩

/-- Reading the parts of a message reads the fields of an object, and the parts say what they are;
the induction is on the fuel, each field being added behind those before it. -/
theorem Parts.Holds.readParts {fuel : Nat} {first : Bool} (holds : parts.Holds fields)
    (read : readParts fuel first parts bytes = .ok (after, rest)) :
    ∃ fuel' others, readFields fuel' (Json.depthLimit - 1) first bytes = .ok (others, rest) ∧
      after.Holds (fields ++ others) := by
  induction fuel generalizing first parts fields bytes with
  | zero => cases read
  | succ fuel ih =>
      simp only [Message.readParts] at read
      obtain ⟨⟨continuation, tail⟩, continued, read⟩ := Except.exists_ok_of_bind read
      cases continuation with
      | done =>
          cases read
          exact ⟨1, [], (Json.FieldsRead.done continued).readFields, by simpa using holds⟩
      | more =>
          obtain ⟨⟨name, atColon⟩, nameRead, read⟩ := Except.exists_ok_of_bind read
          obtain ⟨⟨next, atNext⟩, fieldRead, read⟩ := Except.exists_ok_of_bind read
          obtain ⟨fuel₁, value, atValue, colonRead, valueRead, holds'⟩ := holds.readField fieldRead
          obtain ⟨fuel₂, others, othersRead, holds''⟩ := ih holds' read
          refine ⟨max fuel₁ fuel₂ + 1, (name, value) :: others, ?_, by simpa using holds''⟩
          have valueRead' := Json.readValue_mono (Nat.le_max_left fuel₁ fuel₂) valueRead
          have othersRead' := Json.readFields_mono (Nat.le_max_right fuel₁ fuel₂) othersRead
          have allRead := Json.FieldsRead.more continued nameRead colonRead valueRead' othersRead'
          exact allRead.readFields

/-- A message is an object with its number and its kind, and all its fields give its content. -/
theorem exists_fields_of_parse {m : Message} (parsed : parse bytes = .ok m) :
    ∃ fields, Json.ReadsObject bytes fields ∧
      occurrence "seq" fields = .once (.number (.natural m.seq)) ∧
      occurrence "type" fields = .once (.string m.kind) ∧
      Content.ofFields? fields = some m.content := by
  simp only [parse] at parsed
  split at parsed
  · rename_i inside front
    obtain ⟨⟨parts, atEnd⟩, partsRead, parsed⟩ := Except.exists_ok_of_bind parsed
    dsimp only at parsed
    split at parsed
    · cases parsed
    · rename_i m' made
      obtain ⟨_, ended, parsed⟩ := Except.exists_ok_of_bind parsed
      cases parsed
      obtain ⟨fuel, fields, fieldsRead, holds⟩ := Parts.holds_nil.readParts partsRead
      rw [List.nil_append] at holds
      simp only [ofParts?, Option.bind_eq_bind, Option.bind_eq_some_iff, Option.pure_def,
        Option.some.injEq] at made
      obtain ⟨seq, seqKnown, kind, kindKnown, content, contentMade, rfl⟩ := made
      refine ⟨fields, ⟨fuel, inside, atEnd, front, fieldsRead, ended⟩, ?_, ?_, ?_⟩
      · exact occurrence_of_filter (by rw [holds.seq, seqKnown]; rfl)
      · exact occurrence_of_filter (by rw [holds.kind, kindKnown]; rfl)
      · rw [← holds.others] at contentMade
        rw [← contentMade]
        refine (Content.ofFields?_filter (fun name value seq type => ?_) fields).symm
        simp [seq, type]
  · obtain ⟨_, -, parsed⟩ := Except.exists_ok_of_bind parsed
    cases parsed

end Message

end Adapter

end GuestDebugger
