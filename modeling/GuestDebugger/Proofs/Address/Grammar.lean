import GuestDebugger.Except.Lemmas
import GuestDebugger.Proofs.Listing.Numbers

/-! # Written addresses

An address is written in hexadecimal digits of either case, of which there is at least one, with any
zeros in front; a plus sign may stand before them, and one mark of hexadecimal numbers before that.
Exactly these texts are read, as far as the value is one of 32 bits. How long a text is does not
matter. -/

namespace GuestDebugger

namespace Text

/-! ### Digits -/

/-- A character stands for a value as a digit of base sixteen, in either case. -/
def StandsFor (c : Char) (d : Nat) : Prop :=
  d < 16 ∧ (c = Nat.digitChar d ∨ c = (Nat.digitChar d).toUpper)

theorem digit?_toUpper : ∀ d < 16, digit? 16 (Nat.digitChar d).toUpper = some d := by decide

/-- The characters of a digit by their numbers. -/
theorem toNat_digitChar : ∀ d < 16,
    (Nat.digitChar d).toNat = (if d < 10 then d + 48 else d + 87) ∧
      (Nat.digitChar d).toUpper.toNat = if d < 10 then d + 48 else d + 55 := by
  decide

theorem digit?_eq_some_iff {c : Char} {d : Nat} : digit? 16 c = some d ↔ StandsFor c d := by
  constructor
  · intro read
    simp only [digit?, Option.ite_none_right_eq_some, Option.some.injEq] at read
    obtain ⟨small, value⟩ := read
    rw [value] at small
    obtain ⟨lower, upper⟩ := toNat_digitChar d small
    refine ⟨small, ?_⟩
    rw [← Char.toNat_inj, ← Char.toNat_inj, lower, upper]
    split at value
    · rw [if_pos (by omega)]
      exact .inl (by omega)
    split at value
    · rw [if_neg (by omega)]
      exact .inl (by omega)
    split at value
    · rw [if_neg (by omega), if_neg (by omega)]
      exact .inr (by omega)
    · omega
  · rintro ⟨small, rfl | rfl⟩
    · exact digit?_digitChar d small
    · exact digit?_toUpper d small

/-- No digit is a sign or part of the mark of hexadecimal numbers. -/
theorem StandsFor.ne {c : Char} {d : Nat} (stands : StandsFor c d) :
    c ≠ '+' ∧ c ≠ 'x' ∧ c ≠ 'X' := by
  rw [← digit?_eq_some_iff] at stands
  refine ⟨?_, ?_, ?_⟩ <;> rintro rfl <;> cases stands

/-- Digits of base sixteen, of which there is at least one, and their value. -/
inductive HexNumber : List Char → Nat → Prop
  | one {c : Char} {d : Nat} (stands : StandsFor c d) : HexNumber [c] d
  | more {cs : List Char} {c : Char} {v d : Nat} (number : HexNumber cs v)
      (stands : StandsFor c d) : HexNumber (cs ++ [c]) (v * 16 + d)

theorem HexNumber.ne_nil {cs : List Char} {v : Nat} (number : HexNumber cs v) : cs ≠ [] := by
  cases number <;> simp

theorem HexNumber.exists_standsFor {cs : List Char} {v : Nat} (number : HexNumber cs v) {c : Char}
    (mem : c ∈ cs) : ∃ d, StandsFor c d := by
  induction number with
  | one stands =>
      rw [List.mem_singleton.1 mem]
      exact ⟨_, stands⟩
  | more _ stands ih =>
      rcases List.mem_append.1 mem with early | last
      · exact ih early
      · rw [List.mem_singleton.1 last]
        exact ⟨_, stands⟩

theorem readDigits_singleton_eq_ok_iff {bound u v : Nat} {c : Char} :
    readDigits 16 bound u [c] = .ok v ↔ ∃ d, StandsFor c d ∧ u * 16 + d = v ∧ v < bound := by
  simp only [← digit?_eq_some_iff, readDigits]
  cases digit? 16 c with
  | none => simp
  | some d =>
      dsimp only
      by_cases small : u * 16 + d < bound
      · rw [if_pos small]
        constructor
        · intro read
          cases read
          exact ⟨d, rfl, rfl, small⟩
        · rintro ⟨_, same, rfl, -⟩
          cases same
          rfl
      · rw [if_neg small]
        constructor
        · intro read
          cases read
        · rintro ⟨_, same, rfl, fits⟩
          cases same
          exact absurd fits small

/-- What is read is a number in range. The induction drops the last digit. -/
theorem hexNumber_of_readDigits {bound v : Nat} {cs : List Char} (filled : cs ≠ [])
    (read : readDigits 16 bound 0 cs = .ok v) : HexNumber cs v ∧ v < bound := by
  induction cs using List.reverseRecOn generalizing v with
  | nil => exact absurd rfl filled
  | append_singleton cs c ih =>
      rw [readDigits_append] at read
      obtain ⟨u, early, last⟩ := Except.exists_ok_of_bind read
      obtain ⟨d, stands, rfl, small⟩ := readDigits_singleton_eq_ok_iff.1 last
      refine ⟨?_, small⟩
      by_cases single : cs = []
      · subst single
        cases early
        rw [Nat.zero_mul, Nat.zero_add]
        exact .one stands
      · exact .more (ih single early).1 stands

/-- Every number in range is read, since what is before its last digit is in range as well. -/
theorem HexNumber.readDigits {bound v : Nat} {cs : List Char} (number : HexNumber cs v)
    (small : v < bound) : readDigits 16 bound 0 cs = .ok v := by
  induction number with
  | @one c d stands => exact readDigits_singleton_eq_ok_iff.2 ⟨d, stands, by simp, small⟩
  | @more cs c v d _ stands ih =>
      have early : v < bound := by omega
      rw [readDigits_append, ih early]
      exact readDigits_singleton_eq_ok_iff.2 ⟨d, stands, rfl, small⟩

theorem readMagnitude_eq_ok_iff {bound v : Nat} {cs : List Char} :
    readMagnitude 16 bound cs = .ok v ↔ HexNumber cs v ∧ v < bound := by
  cases cs with
  | nil => exact iff_of_false nofun fun number => number.1.ne_nil rfl
  | cons c rest =>
      exact ⟨hexNumber_of_readDigits (List.cons_ne_nil _ _), fun ⟨number, small⟩ =>
        number.readDigits small⟩

/-- A number in base sixteen, after a sign or without. -/
def SignedHexNumber (cs : List Char) (v : Nat) : Prop :=
  ∃ sign ∈ [[], ['+']], ∃ digits, cs = sign ++ digits ∧ HexNumber digits v

theorem signedHexNumber_plus_iff {cs : List Char} {v : Nat} :
    SignedHexNumber ('+' :: cs) v ↔ HexNumber cs v := by
  constructor
  · rintro ⟨sign, mem, digits, eq, number⟩
    simp only [List.mem_cons, List.not_mem_nil, or_false] at mem
    rcases mem with rfl | rfl
    · obtain rfl : '+' :: cs = digits := eq
      obtain ⟨d, stands⟩ := number.exists_standsFor List.mem_cons_self
      exact absurd rfl stands.ne.1
    · obtain rfl : cs = digits := (List.cons.inj eq).2
      exact number
  · intro number
    exact ⟨['+'], by simp, cs, rfl, number⟩

theorem signedHexNumber_unsigned_iff {c : Char} {cs : List Char} {v : Nat} (unsigned : c ≠ '+') :
    SignedHexNumber (c :: cs) v ↔ HexNumber (c :: cs) v := by
  constructor
  · rintro ⟨sign, mem, digits, eq, number⟩
    simp only [List.mem_cons, List.not_mem_nil, or_false] at mem
    rcases mem with rfl | rfl
    · obtain rfl : c :: cs = digits := eq
      exact number
    · exact absurd (List.cons.inj eq).1 unsigned
  · intro number
    exact ⟨[], by simp, c :: cs, rfl, number⟩

theorem readUnsigned_eq_ok_iff {bound v : Nat} {cs : List Char} :
    readUnsigned 16 bound cs = .ok v ↔ SignedHexNumber cs v ∧ v < bound := by
  cases cs with
  | nil =>
      refine iff_of_false nofun ?_
      rintro ⟨⟨sign, -, digits, eq, number⟩, -⟩
      exact number.ne_nil (List.append_eq_nil_iff.1 eq.symm).2
  | cons c rest =>
      by_cases sign : c = '+'
      · subst sign
        rw [signedHexNumber_plus_iff]
        exact readMagnitude_eq_ok_iff
      · have unsigned : readUnsigned 16 bound (c :: rest) = readMagnitude 16 bound (c :: rest) := by
          rw [readUnsigned]
          · simp
          · intro _ eq
            exact sign (List.cons.inj eq).1
        rw [unsigned, signedHexNumber_unsigned_iff sign]
        exact readMagnitude_eq_ok_iff

theorem readUInt32_eq_ok_iff {a : UInt32} {cs : List Char} :
    readUInt32 16 cs = .ok a ↔ SignedHexNumber cs a.toNat := by
  have read : readUInt32 16 cs = .ok a ↔ readUnsigned 16 UInt32.size cs = .ok a.toNat := by
    constructor
    · intro read
      obtain ⟨v, unsigned, rfl⟩ := Except.exists_ok_of_map read
      rw [UInt32.toNat_ofNat_of_lt' (readUnsigned_eq_ok_iff.1 unsigned).2]
      exact unsigned
    · intro read
      rw [readUInt32, read, Except.map, UInt32.ofNat_toNat]
  rw [read, readUnsigned_eq_ok_iff]
  exact and_iff_left a.toNat_lt_size

end Text

namespace Address

open Text

/-- How an address with a value is written: a mark or none, a sign or none, and digits. -/
def Written (text : List Char) (v : Nat) : Prop :=
  ∃ mark ∈ [[], ['0', 'x'], ['0', 'X']], ∃ number, text = mark ++ number ∧ SignedHexNumber number v

theorem afterMark?_eq_some_iff {text rest : List Char} :
    afterMark? text = some rest ↔ text = '0' :: 'x' :: rest ∨ text = '0' :: 'X' :: rest := by
  constructor
  · intro marked
    unfold afterMark? at marked
    split at marked
    · cases marked
      exact .inl rfl
    · cases marked
      exact .inr rfl
    · cases marked
  · rintro (rfl | rfl) <;> rfl

/-- What is marked is no number without the mark. -/
theorem afterMark?_of_signedHexNumber {text : List Char} {v : Nat}
    (number : SignedHexNumber text v) : afterMark? text = none := by
  rw [Option.eq_none_iff_forall_ne_some]
  intro rest marked
  rcases afterMark?_eq_some_iff.1 marked with rfl | rfl
  · rw [signedHexNumber_unsigned_iff (by decide)] at number
    obtain ⟨d, stands⟩ := number.exists_standsFor (c := 'x') (by simp)
    exact stands.ne.2.1 rfl
  · rw [signedHexNumber_unsigned_iff (by decide)] at number
    obtain ⟨d, stands⟩ := number.exists_standsFor (c := 'X') (by simp)
    exact stands.ne.2.2 rfl

theorem written_iff {text : List Char} {v : Nat} :
    Written text v ↔ SignedHexNumber ((afterMark? text).getD text) v := by
  constructor
  · rintro ⟨mark, mem, number, rfl, signed⟩
    simp only [List.mem_cons, List.not_mem_nil, or_false] at mem
    rcases mem with rfl | rfl | rfl
    · rw [List.nil_append, afterMark?_of_signedHexNumber signed]
      exact signed
    · exact signed
    · exact signed
  · intro signed
    cases marked : afterMark? text with
    | none =>
        rw [marked] at signed
        exact ⟨[], by simp, text, rfl, signed⟩
    | some rest =>
        rw [marked] at signed
        rcases afterMark?_eq_some_iff.1 marked with rfl | rfl
        · exact ⟨['0', 'x'], by simp, rest, rfl, signed⟩
        · exact ⟨['0', 'X'], by simp, rest, rfl, signed⟩

/-- Exactly the written addresses are read. -/
theorem parse?_eq_some_iff {text : String} {a : Address} :
    parse? text = some a ↔ Written text.toList a.toNat := by
  rw [parse?, read?, Except.toOption_eq_some_iff, readUInt32_eq_ok_iff, written_iff]

/-! ### Printed addresses -/

theorem parse?_text (a : Address) : parse? a.text = some a := parse?_hexNumeral true 8 a

theorem parse?_hex (a : Address) : parse? (hex a.toNat) = some a := by
  have plain : hexNumeral false 0 a.toNat = hex a.toNat := by
    rw [hexNumeral, paddedHex_zero]
    exact String.empty_append
  rw [← plain]
  exact parse?_hexNumeral false 0 a

end Address

end GuestDebugger
