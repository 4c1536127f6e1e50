import GuestDebugger.Listing.Reader
import GuestDebugger.Text.Lemmas

/-! # Numbers of a listing

Numbers are read back from their written forms: from hexadecimal digits with any zeros in front,
from decimals, and from decimals with a sign. -/

namespace GuestDebugger

namespace Text

/-! ### Hexadecimal digits -/

/-- The lower-case digits of base sixteen. -/
def IsHexDigit (c : Char) : Prop := ∃ d < 16, c = Nat.digitChar d

theorem digit?_digitChar : ∀ d < 16, digit? 16 (Nat.digitChar d) = some d := by decide

/-- A hexadecimal digit is neither a sign nor part of the mark of hexadecimal numbers. -/
theorem IsHexDigit.ne {c : Char} (digit : IsHexDigit c) : c ≠ '+' ∧ c ≠ 'x' ∧ c ≠ 'X' := by
  obtain ⟨d, small, rfl⟩ := digit
  have all : ∀ d < 16, Nat.digitChar d ≠ '+' ∧ Nat.digitChar d ≠ 'x' ∧ Nat.digitChar d ≠ 'X' := by
    decide
  exact all d small

theorem hexDigits_of_lt {n : Nat} (small : n < 16) : hexDigits n = [Nat.digitChar n] :=
  Nat.toDigits_of_lt_base small

theorem hexDigits_of_le {n : Nat} (large : 16 ≤ n) :
    hexDigits n = hexDigits (n / 16) ++ [Nat.digitChar (n % 16)] :=
  Nat.toDigits_of_base_le (by decide) large

theorem isHexDigit_of_mem_hexDigits {n : Nat} {c : Char} (mem : c ∈ hexDigits n) :
    IsHexDigit c := by
  induction n using Nat.strongRecOn with
  | ind n ih =>
      by_cases small : n < 16
      · rw [hexDigits_of_lt small, List.mem_singleton] at mem
        exact ⟨n, small, mem⟩
      · rw [hexDigits_of_le (Nat.not_lt.1 small), List.mem_append, List.mem_singleton] at mem
        rcases mem with early | last
        · exact ih (n / 16) (by omega) early
        · exact ⟨n % 16, Nat.mod_lt _ (by decide), last⟩

theorem isHexDigit_of_mem_paddedHexDigits {width n : Nat} {c : Char}
    (mem : c ∈ paddedHexDigits width n) : IsHexDigit c := by
  rcases List.mem_append.1 mem with zero | digit
  · rw [List.eq_of_mem_replicate zero]
    exact ⟨0, by decide, rfl⟩
  · exact isHexDigit_of_mem_hexDigits digit

theorem paddedHexDigits_ne_nil (width n : Nat) : paddedHexDigits width n ≠ [] :=
  List.append_ne_nil_of_right_ne_nil _ Nat.toDigits_ne_nil

/-- Without a width there are no zeros in front. -/
theorem paddedHex_zero (n : Nat) : paddedHex 0 n = hex n := by
  simp [paddedHex, paddedHexDigits, hex]

/-! ### Reading digits -/

variable {base bound value : Nat}

theorem readDigits_append (first second : List Char) :
    readDigits base bound value (first ++ second) =
      (readDigits base bound value first).bind fun v => readDigits base bound v second := by
  induction first generalizing value with
  | nil => rfl
  | cons c rest ih =>
      simp only [List.cons_append, readDigits]
      split
      · rfl
      · split
        · exact ih
        · rfl

theorem readDigits_zeros (positive : 0 < bound) (count : Nat) :
    readDigits 16 bound 0 (List.replicate count '0') = .ok 0 := by
  induction count with
  | zero => rfl
  | succ count ih =>
      have zero : digit? 16 '0' = some 0 := by decide
      simp only [List.replicate_succ, readDigits, zero, Nat.zero_mul, Nat.zero_add, positive,
        if_true]
      exact ih

/-- A number is read back from its hexadecimal digits. The induction drops the last digit. -/
theorem readDigits_hexDigits {n : Nat} (small : n < bound) :
    readDigits 16 bound 0 (hexDigits n) = .ok n := by
  induction n using Nat.strongRecOn with
  | ind n ih =>
      by_cases single : n < 16
      · simp [hexDigits_of_lt single, readDigits, digit?_digitChar n single, small]
      · have digit := digit?_digitChar (n % 16) (Nat.mod_lt _ (by decide))
        have value : n / 16 * 16 + n % 16 = n := Nat.div_add_mod' n 16
        rw [hexDigits_of_le (Nat.not_lt.1 single), readDigits_append,
          ih (n / 16) (by omega) (by omega)]
        simp [Except.bind, readDigits, digit, value, small]

theorem readDigits_paddedHexDigits {n : Nat} (small : n < bound) (width : Nat) :
    readDigits 16 bound 0 (paddedHexDigits width n) = .ok n := by
  rw [paddedHexDigits, readDigits_append, readDigits_zeros (by omega)]
  exact readDigits_hexDigits small

/-- Without a sign, all of a numeral is digits. -/
theorem readUnsigned_of_unsigned {cs : List Char} (filled : cs ≠ []) (unsigned : '+' ∉ cs) :
    readUnsigned base bound cs = readDigits base bound 0 cs := by
  cases cs with
  | nil => exact absurd rfl filled
  | cons c rest =>
      have noSign : c ≠ '+' := fun sign => unsigned (by simp [sign])
      rw [readUnsigned]
      · rfl
      · intro eq
        cases eq
      · intro _ eq
        exact noSign (List.cons.inj eq).1

theorem readUInt32_paddedHexDigits (width : Nat) {n : Nat} (small : n < UInt32.size) :
    readUInt32 16 (paddedHexDigits width n) = .ok (.ofNat n) := by
  have unsigned : '+' ∉ paddedHexDigits width n := fun mem =>
    (isHexDigit_of_mem_paddedHexDigits mem).ne.1 rfl
  rw [readUInt32, readUnsigned_of_unsigned (paddedHexDigits_ne_nil _ _) unsigned,
    readDigits_paddedHexDigits small]
  rfl

theorem readUInt32_toString (n : UInt32) : readUInt32 10 (toString n.toNat).toList = .ok n := by
  rw [readUInt32, readUnsigned_toString n.toNat_lt_size]
  simp [Except.map]

/-! ### Numbers with a sign -/

theorem not_mem_toString {c : Char} (noDigit : c.isDigit = false) (n : Nat) :
    c ∉ (toString n).toList := by
  intro mem
  rw [isDigit_of_mem_toString mem] at noDigit
  cases noDigit

theorem readMagnitude_toString {n : Nat} (small : n < bound) :
    readMagnitude 10 bound (toString n).toList = .ok n := by
  have read := readUnsigned_toString small
  rw [readUnsigned_of_unsigned (toString_toList_ne_nil n) (not_mem_toString (by decide) n)] at read
  cases text : (toString n).toList with
  | nil => exact absurd text (toString_toList_ne_nil n)
  | cons c rest => rwa [text] at read

/-- An exit code is read back from its decimal form. The cases are those of its sign. -/
theorem readInt32_toString (code : Int32) : readInt32 (toString code.toInt).toList = .ok code := by
  have least : -2 ^ 31 ≤ code.toInt := code.le_toInt
  have greatest : code.toInt < 2 ^ 31 := code.toInt_lt
  cases value : code.toInt with
  | ofNat n =>
      have back : Int32.ofNat n = code := by
        rw [← Int32.ofInt_toInt code, value]
        rfl
      have small : n < int32Bound := by
        rw [value] at greatest
        exact Int.ofNat_lt.1 greatest
      change readInt32 (toString n).toList = .ok code
      rw [readInt32]
      · rw [readUnsigned_toString small, Except.map, back]
      · intro rest eq
        have sign : '-' ∈ (toString n).toList := by
          rw [eq]
          exact List.mem_cons_self
        exact not_mem_toString (by decide) n sign
  | negSucc n =>
      have back : Int32.ofInt (-(n + 1 : Nat)) = code := by
        rw [← Int32.ofInt_toInt code, value]
        rfl
      have small : n + 1 < int32Bound + 1 := by
        rw [value] at least
        have bound : int32Bound = 2 ^ 31 := rfl
        omega
      have text : (toString (Int.negSucc n)).toList = '-' :: (toString (n + 1)).toList := by
        change ("-" ++ toString (n + 1)).toList = _
        rw [String.toList_append]
        simp
      rw [text, readInt32, readMagnitude_toString small]
      exact congrArg Except.ok back

/-! ### Hexadecimal numerals -/

/-- A number in hexadecimal digits, with zeros in front up to a width, and with or without the mark
of hexadecimal numbers. -/
def hexNumeral (marked : Bool) (width n : Nat) : String :=
  (if marked then "0x" else "") ++ paddedHex width n

theorem toList_hexNumeral (marked : Bool) (width n : Nat) :
    (hexNumeral marked width n).toList =
      (if marked then ['0', 'x'] else []) ++ paddedHexDigits width n := by
  cases marked <;> simp [hexNumeral, paddedHex]

theorem afterMark?_of_isHexDigit {cs : List Char} (digits : ∀ c ∈ cs, IsHexDigit c) :
    Address.afterMark? cs = none := by
  rw [Address.afterMark?]
  · rintro rest rfl
    exact (digits 'x' (by simp)).ne.2.1 rfl
  · rintro rest rfl
    exact (digits 'X' (by simp)).ne.2.2 rfl

/-- The mark is what tells a numeral from its digits. -/
theorem afterMark?_hexNumeral (marked : Bool) (width n : Nat) :
    Address.afterMark? (hexNumeral marked width n).toList =
      if marked then some (paddedHexDigits width n) else none := by
  rw [toList_hexNumeral]
  cases marked with
  | true => rfl
  | false => exact afterMark?_of_isHexDigit fun c => isHexDigit_of_mem_paddedHexDigits

end Text

open Text

/-- An address is read back from its digits, marked or not. -/
theorem Address.parse?_hexNumeral (marked : Bool) (width : Nat) (a : Address) :
    parse? (hexNumeral marked width a.toNat) = some a := by
  have digits : (afterMark? (hexNumeral marked width a.toNat).toList).getD
      (hexNumeral marked width a.toNat).toList = paddedHexDigits width a.toNat := by
    rw [afterMark?_hexNumeral, toList_hexNumeral]
    cases marked <;> rfl
  rw [parse?, read?, digits, readUInt32_paddedHexDigits width a.toNat_lt_size, UInt32.ofNat_toNat]
  rfl

namespace Listing

theorem readNumber?_hexNumeral (width : Nat) {n : Nat} (small : n < UInt32.size) :
    readNumber? (hexNumeral true width n).toList = some (.ofNat n) := by
  rw [readNumber?, afterMark?_hexNumeral]
  simp only [if_true]
  rw [readUInt32_paddedHexDigits width small]
  rfl

theorem readNumber?_toString (n : UInt32) : readNumber? (toString n.toNat).toList = some n := by
  have unmarked : Address.afterMark? (toString n.toNat).toList = none := by
    rw [Address.afterMark?]
    · intro rest eq
      refine not_mem_toString (c := 'x') (by decide) n.toNat ?_
      rw [eq]
      simp
    · intro rest eq
      refine not_mem_toString (c := 'X') (by decide) n.toNat ?_
      rw [eq]
      simp
  rw [readNumber?, unmarked]
  dsimp only
  rw [readUInt32_toString]
  rfl

end Listing

end GuestDebugger
