import GuestDebugger.Bytes.Lemmas
import GuestDebugger.Sink

/-! # Sinks

A sink that takes a text goes on behind it. One that does not take it gets the beginning that fits,
and nothing that follows makes a difference to it. -/

namespace GuestDebugger.Sink

variable {k : Sink} {text rest : String}

theorem size_toUTF8 (text : String) : text.toUTF8.size = text.utf8ByteSize := rfl

/-! ### Texts that are taken -/

/-- A sink that took a text. -/
def put (k : Sink) (text : String) : Sink where
  written := k.written ++ text.toUTF8
  room := k.room.map (· - text.toUTF8.size)

theorem put_empty (k : Sink) : k.put "" = k := by
  obtain ⟨written, room⟩ := k
  cases room <;> simp [put]

theorem put_put (k : Sink) (text rest : String) : (k.put text).put rest = k.put (text ++ rest) := by
  obtain ⟨written, room⟩ := k
  cases room <;> simp [put, ByteArray.append_assoc, Nat.sub_sub]

theorem room_put (unlimited : k.room = none) : (k.put text).room = none := by
  rw [put, unlimited]
  rfl

/-- Whether all of a text fits into a sink. -/
def Takes (k : Sink) (text : String) : Prop := (k.write text).1 = true

theorem takes_iff : k.Takes text ↔ ∀ room, k.room = some room → text.utf8ByteSize ≤ room := by
  obtain ⟨written, room⟩ := k
  cases room with
  | none => simp [Takes, write, writeBytes]
  | some room =>
      simp only [Takes, write, writeBytes, Option.some.injEq, forall_eq', size_toUTF8]
      by_cases fits : text.utf8ByteSize ≤ room <;> simp only [fits, if_true, if_false, reduceCtorEq]

theorem takes_empty (k : Sink) : k.Takes "" := takes_iff.2 fun _ _ => Nat.zero_le _

theorem takes_of_unlimited (unlimited : k.room = none) : k.Takes text := by
  rw [takes_iff, unlimited]
  exact nofun

theorem takes_append : k.Takes (text ++ rest) ↔ k.Takes text ∧ (k.put text).Takes rest := by
  obtain ⟨written, room⟩ := k
  cases room with
  | none => simp [takes_iff, put]
  | some room =>
      simp only [takes_iff, put, Option.map_some, Option.some.injEq, forall_eq',
        String.utf8ByteSize_append, size_toUTF8]
      omega

theorem write_of_takes (takes : k.Takes text) : k.write text = (true, k.put text) := by
  obtain ⟨written, room⟩ := k
  cases room with
  | none => rfl
  | some room =>
      have fits : text.toUTF8.size ≤ room := takes_iff.1 takes room rfl
      rw [write, writeBytes]
      exact if_pos fits

theorem write_empty (k : Sink) : k.write "" = (true, k) := by
  rw [write_of_takes k.takes_empty, put_empty]

/-! ### Texts that are not taken -/

theorem not_takes_iff :
    ¬k.Takes text ↔ ∃ room, k.room = some room ∧ room < text.utf8ByteSize := by
  simp [takes_iff]

theorem write_of_not_takes (fails : ¬k.Takes text) : k.write text = (false, (k.write text).2) :=
  Prod.ext (Bool.not_eq_true _ ▸ fails) rfl

/-- A sink with a limit takes as many bytes as fit. -/
theorem writeBytes_of_room {room : Nat} (limited : k.room = some room) (bytes : ByteArray) :
    k.writeBytes bytes = (decide (bytes.size ≤ room),
      { written := k.written ++ bytes.extract 0 room, room := some (room - bytes.size) }) := by
  rw [writeBytes, limited]
  dsimp only
  by_cases fits : bytes.size ≤ room
  · rw [if_pos fits, Bytes.extract_of_size_le fits, decide_eq_true fits]
  · rw [if_neg fits, decide_eq_false fits, Nat.sub_eq_zero_of_le (Nat.le_of_not_le fits)]

/-! ### One text after another -/

theorem write_append (k : Sink) (text rest : String) :
    k.write (text ++ rest) = k.writeBytes (text.toUTF8 ++ rest.toUTF8) :=
  congrArg k.writeBytes String.toByteArray_append

/-- The rest of a text is written where its beginning ends. -/
theorem write_append_of_takes (takes : k.Takes text) :
    k.write (text ++ rest) = (k.put text).write rest := by
  rw [write_append]
  cases limit : k.room with
  | none => simp [write, writeBytes, put, limit, ByteArray.append_assoc]
  | some room =>
      have fits : text.toUTF8.size ≤ room := takes_iff.1 takes room limit
      have left : (k.put text).room = some (room - text.toUTF8.size) := by
        rw [put, limit]
        rfl
      have same : text.toUTF8.size + rest.toUTF8.size ≤ room ↔
          rest.toUTF8.size ≤ room - text.toUTF8.size := by omega
      rw [write, writeBytes_of_room limit, writeBytes_of_room left, ByteArray.extract_append,
        Bytes.extract_of_size_le fits, ByteArray.size_append, Nat.sub_sub, Nat.zero_sub, put,
        ByteArray.append_assoc]
      simp only [same]

/-- Behind a text that is not taken nothing is. -/
theorem write_append_of_not_takes (fails : ¬k.Takes text) :
    k.write (text ++ rest) = k.write text := by
  obtain ⟨room, limit, large⟩ := not_takes_iff.1 fails
  have large : room < text.toUTF8.size := large
  have full : room - text.toUTF8.size = 0 := Nat.sub_eq_zero_of_le (Nat.le_of_lt large)
  have full' : room - (text.toUTF8.size + rest.toUTF8.size) = 0 := by omega
  have fails' : ¬text.toUTF8.size + rest.toUTF8.size ≤ room := by omega
  rw [write_append, write, writeBytes_of_room limit, writeBytes_of_room limit,
    ByteArray.extract_append, ByteArray.size_append, full, full', Nat.zero_sub,
    ByteArray.extract_same, ByteArray.append_empty, decide_eq_false fails',
    decide_eq_false (Nat.not_le_of_lt large)]

end GuestDebugger.Sink
