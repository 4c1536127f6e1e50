import GuestDebugger.Except.Lemmas
import GuestDebugger.Json.Reader

/-! # What was read

Readers of values by cases, and how much fuel they need: what was read with some fuel is read with
more of it just the same. -/

namespace GuestDebugger.Json

variable {fuel depth : Nat} {first : Bool} {bytes rest : List UInt8}

/-- A value that holds no others is read at every depth. -/
theorem readValue_of_readScalar {b : UInt8} {value : Json} {after : List UInt8}
    (front : skipBlanks bytes = b :: after) (scalar : readScalar b after = .ok (some value, rest)) :
    readValue (fuel + 1) depth bytes = .ok (value, rest) := by
  have bracket : b ≠ 91 := by
    rintro rfl
    cases scalar
  have brace : b ≠ 123 := by
    rintro rfl
    cases scalar
  simp only [readValue, front, scalar, beq_iff_eq, bracket, brace, or_self, Bool.or_eq_true,
    if_false]
  rfl

/-- A value that was read, by what it began with. -/
inductive ValueRead (fuel : Nat) : Nat → List UInt8 → Json → List UInt8 → Prop
  | scalar {depth : Nat} {bytes rest after : List UInt8} {b : UInt8} {value : Json}
      (front : skipBlanks bytes = b :: after)
      (read : readScalar b after = .ok (some value, rest)) :
      ValueRead fuel depth bytes value rest
  | array {depth : Nat} {bytes rest after : List UInt8} {items : List Json}
      (front : skipBlanks bytes = 91 :: after)
      (read : readItems fuel (depth + 1) true after = .ok (items, rest)) :
      ValueRead fuel (depth + 2) bytes (.array items) rest
  | object {depth : Nat} {bytes rest after : List UInt8} {fields : List (String × Json)}
      (front : skipBlanks bytes = 123 :: after)
      (read : readFields fuel (depth + 1) true after = .ok (fields, rest)) :
      ValueRead fuel (depth + 2) bytes (.ofFields fields) rest

theorem valueRead_of_readValue {value : Json}
    (read : readValue (fuel + 1) depth bytes = .ok (value, rest)) :
    ValueRead fuel depth bytes value rest := by
  simp only [readValue] at read
  split at read
  · cases read
  · rename_i b after front
    split at read
    · rename_i container
      split at read
      · cases read
      · cases read
      · rename_i depth positive
        obtain ⟨depth, rfl⟩ := Nat.exists_eq_succ_of_ne_zero positive
        split at read
        · rename_i bracket
          obtain rfl : b = 91 := by simpa using bracket
          obtain ⟨⟨items, after⟩, itemsRead, eq⟩ := Except.exists_ok_of_map read
          cases eq
          exact .array front itemsRead
        · rename_i bracket
          obtain rfl : b = 123 := by simpa [show b ≠ 91 by simpa using bracket] using container
          obtain ⟨⟨fields, after⟩, fieldsRead, eq⟩ := Except.exists_ok_of_map read
          cases eq
          exact .object front fieldsRead
    · obtain ⟨⟨scalar, after'⟩, scalarRead, read⟩ := Except.exists_ok_of_bind read
      cases scalar with
      | none => cases read
      | some value =>
          cases read
          exact .scalar front scalarRead

theorem ValueRead.readValue {value : Json} (read : ValueRead fuel depth bytes value rest) :
    readValue (fuel + 1) depth bytes = .ok (value, rest) := by
  cases read with
  | scalar front read => exact readValue_of_readScalar front read
  | array front read =>
      simp only [Json.readValue, front, read]
      rfl
  | object front read =>
      simp only [Json.readValue, front, read]
      rfl

/-- Fields that were read: none, or one with its value and those after it. -/
inductive FieldsRead (fuel depth : Nat) (first : Bool) (bytes : List UInt8) :
    List (String × Json) → List UInt8 → Prop
  | done {rest : List UInt8} (ends : readContinuation 125 first bytes = .ok (.done, rest)) :
      FieldsRead fuel depth first bytes [] rest
  | more {atName atColon atValue after rest : List UInt8} {name : String} {value : Json}
      {others : List (String × Json)}
      (goesOn : readContinuation 125 first bytes = .ok (.more, atName))
      (nameRead : readFieldName atName = .ok (name, atColon))
      (colonRead : readColon atColon = .ok ((), atValue))
      (valueRead : readValue fuel depth atValue = .ok (value, after))
      (othersRead : readFields fuel depth false after = .ok (others, rest)) :
      FieldsRead fuel depth first bytes ((name, value) :: others) rest

theorem fieldsRead_of_readFields {fields : List (String × Json)}
    (read : readFields (fuel + 1) depth first bytes = .ok (fields, rest)) :
    FieldsRead fuel depth first bytes fields rest := by
  simp only [readFields] at read
  obtain ⟨⟨continuation, after⟩, continued, read⟩ := Except.exists_ok_of_bind read
  cases continuation with
  | done =>
      cases read
      exact .done continued
  | more =>
      obtain ⟨⟨name, atColon⟩, nameRead, read⟩ := Except.exists_ok_of_bind read
      obtain ⟨⟨_, atValue⟩, colonRead, read⟩ := Except.exists_ok_of_bind read
      obtain ⟨⟨value, after⟩, valueRead, read⟩ := Except.exists_ok_of_bind read
      obtain ⟨⟨others, atEnd⟩, othersRead, read⟩ := Except.exists_ok_of_bind read
      cases read
      exact .more continued nameRead colonRead valueRead othersRead

theorem FieldsRead.readFields {fields : List (String × Json)}
    (read : FieldsRead fuel depth first bytes fields rest) :
    readFields (fuel + 1) depth first bytes = .ok (fields, rest) := by
  cases read with
  | done ends =>
      simp only [Json.readFields, ends]
      rfl
  | more goesOn nameRead colonRead valueRead othersRead =>
      simp only [Json.readFields, goesOn, nameRead, colonRead, valueRead, othersRead, bind,
        Except.bind]
      rfl

/-- Items that were read: none, or one and those after it. -/
inductive ItemsRead (fuel depth : Nat) (first : Bool) (bytes : List UInt8) :
    List Json → List UInt8 → Prop
  | done {rest : List UInt8} (ends : readContinuation 93 first bytes = .ok (.done, rest)) :
      ItemsRead fuel depth first bytes [] rest
  | more {atValue after rest : List UInt8} {item : Json} {others : List Json}
      (goesOn : readContinuation 93 first bytes = .ok (.more, atValue))
      (itemRead : readValue fuel depth atValue = .ok (item, after))
      (othersRead : readItems fuel depth false after = .ok (others, rest)) :
      ItemsRead fuel depth first bytes (item :: others) rest

theorem itemsRead_of_readItems {items : List Json}
    (read : readItems (fuel + 1) depth first bytes = .ok (items, rest)) :
    ItemsRead fuel depth first bytes items rest := by
  simp only [readItems] at read
  obtain ⟨⟨continuation, after⟩, continued, read⟩ := Except.exists_ok_of_bind read
  cases continuation with
  | done =>
      cases read
      exact .done continued
  | more =>
      obtain ⟨⟨item, after⟩, itemRead, read⟩ := Except.exists_ok_of_bind read
      obtain ⟨⟨others, atEnd⟩, othersRead, read⟩ := Except.exists_ok_of_bind read
      cases read
      exact .more continued itemRead othersRead

theorem ItemsRead.readItems {items : List Json}
    (read : ItemsRead fuel depth first bytes items rest) :
    readItems (fuel + 1) depth first bytes = .ok (items, rest) := by
  cases read with
  | done ends =>
      simp only [Json.readItems, ends]
      rfl
  | more goesOn itemRead othersRead =>
      simp only [Json.readItems, goesOn, itemRead, othersRead, bind, Except.bind]
      rfl

/-! ### More fuel -/

/-- What was read with some fuel is read with one more unit of it, be it a value, items or fields;
the induction is on the fuel of all three together. -/
theorem read_succ (fuel : Nat) :
    (∀ {depth bytes value rest}, readValue fuel depth bytes = .ok (value, rest) →
      readValue (fuel + 1) depth bytes = .ok (value, rest)) ∧
    (∀ {depth first bytes items rest}, readItems fuel depth first bytes = .ok (items, rest) →
      readItems (fuel + 1) depth first bytes = .ok (items, rest)) ∧
    (∀ {depth first bytes fields rest}, readFields fuel depth first bytes = .ok (fields, rest) →
      readFields (fuel + 1) depth first bytes = .ok (fields, rest)) := by
  induction fuel with
  | zero =>
      refine ⟨?_, ?_, ?_⟩ <;> intros <;> rename_i read
      · simp [readValue] at read
      · simp [readItems] at read
      · simp [readFields] at read
  | succ fuel ih =>
      obtain ⟨value, items, fields⟩ := ih
      refine ⟨?_, ?_, ?_⟩ <;> intros <;> rename_i read
      · cases valueRead_of_readValue read with
        | scalar front read => exact (ValueRead.scalar front read).readValue
        | array front read => exact (ValueRead.array front (items read)).readValue
        | object front read => exact (ValueRead.object front (fields read)).readValue
      · cases itemsRead_of_readItems read with
        | done ends => exact (ItemsRead.done ends).readItems
        | more goesOn itemRead othersRead =>
            exact (ItemsRead.more goesOn (value itemRead) (items othersRead)).readItems
      · cases fieldsRead_of_readFields read with
        | done ends => exact (FieldsRead.done ends).readFields
        | more goesOn nameRead colonRead valueRead othersRead =>
            exact (FieldsRead.more goesOn nameRead colonRead (value valueRead)
              (fields othersRead)).readFields

theorem readValue_mono {more : Nat} (enough : fuel ≤ more) {value : Json}
    (read : readValue fuel depth bytes = .ok (value, rest)) :
    readValue more depth bytes = .ok (value, rest) := by
  induction enough with
  | refl => exact read
  | step _ ih => exact (read_succ _).1 ih

theorem readFields_mono {more : Nat} (enough : fuel ≤ more) {fields : List (String × Json)}
    (read : readFields fuel depth first bytes = .ok (fields, rest)) :
    readFields more depth first bytes = .ok (fields, rest) := by
  induction enough with
  | refl => exact read
  | step _ ih => exact (read_succ _).2.2 ih

end GuestDebugger.Json
