import GuestDebugger.Bytes.Lemmas
import GuestDebugger.Text.Blank
import GuestDebugger.Text.Lines
import GuestDebugger.Text.Numeral
import GuestDebugger.Text.Utf8
import Mathlib.Data.List.DropRight

/-! # Encoded texts and decimal numbers

A text is encoded character by character, and decoded as it was encoded. A number is read back from
its decimal digits. -/

namespace GuestDebugger.Text

theorem encode_append (first second : String) :
    encode (first ++ second) = encode first ++ encode second := by
  simp [encode, String.toUTF8, Bytes.toList_eq_data_toList]

theorem length_encode (text : String) : (encode text).length = text.utf8ByteSize := by
  simp [encode, String.toUTF8, Bytes.toList_eq_data_toList]

theorem encode_ofList (cs : List Char) :
    encode (String.ofList cs) = cs.flatMap String.utf8EncodeChar := by
  simp [encode, String.toUTF8, Bytes.toList_eq_data_toList, List.utf8Encode]

theorem encode_eq_flatMap (text : String) :
    encode text = text.toList.flatMap String.utf8EncodeChar := by
  rw [← encode_ofList, String.ofList_toList]

theorem encode_join (texts : List String) :
    encode (String.join texts) = texts.flatMap encode := by
  have each : encode = fun text => text.toList.flatMap String.utf8EncodeChar :=
    funext encode_eq_flatMap
  rw [encode_eq_flatMap, String.toList_join, List.flatMap_assoc, each]

/-! ### ASCII -/

/-- The characters are encoded in one byte each. -/
def Ascii (cs : List Char) : Prop := ∀ c ∈ cs, c.toNat < 128

theorem utf8EncodeChar_of_lt {c : Char} (ascii : c.toNat < 128) :
    String.utf8EncodeChar c = [UInt8.ofNat c.toNat] := by
  have small : c.val ≤ 127 := by
    rw [UInt32.le_iff_toNat_le]
    exact Nat.le_of_lt_succ ascii
  exact String.utf8EncodeChar_eq_singleton (Char.utf8Size_eq_one_iff.2 small)

theorem encode_of_ascii {cs : List Char} (ascii : Ascii cs) :
    encode (String.ofList cs) = cs.map fun c => UInt8.ofNat c.toNat := by
  rw [encode_ofList]
  induction cs with
  | nil => rfl
  | cons c cs ih =>
      have first := utf8EncodeChar_of_lt (ascii c List.mem_cons_self)
      have rest := ih fun c mem => ascii c (List.mem_cons_of_mem _ mem)
      rw [List.flatMap_cons, first, rest]
      rfl

/-! ### All characters -/

theorem toNat_byte {n : Nat} (small : n < 256) : (UInt8.ofNat n).toNat = n :=
  UInt8.toNat_ofNat_of_lt' small

section Bytes

variable (rest : List UInt8)

theorem decodeFrom_two {high : Nat} (least : 2 ≤ high) (small : high < 32) :
    decodeFrom none (UInt8.ofNat (high + 0xC0) :: rest) =
      decodeFrom (some ⟨high, 1, 0x80, 0xBF⟩) rest := by
  have byte := toNat_byte (show high + 0xC0 < 256 by omega)
  simp only [decodeFrom, nextByte, firstByte, byte, Nat.add_sub_cancel]
  rw [if_neg (by omega), if_neg (by omega), if_pos (by omega), List.nil_append]

theorem decodeFrom_three {high : Nat} (small : high < 16) :
    decodeFrom none (UInt8.ofNat (high + 0xE0) :: rest) =
      decodeFrom (some ⟨high, 2, if high = 0 then 0xA0 else 0x80,
        if high = 13 then 0x9F else 0xBF⟩) rest := by
  have byte := toNat_byte (show high + 0xE0 < 256 by omega)
  have first : high + 0xE0 = 0xE0 ↔ high = 0 := by omega
  have last : high + 0xE0 = 0xED ↔ high = 13 := by omega
  simp only [decodeFrom, nextByte, firstByte, byte, Nat.add_sub_cancel, first, last]
  rw [if_neg (by omega), if_neg (by omega), if_neg (by omega), if_pos (by omega), List.nil_append]

theorem decodeFrom_four {high : Nat} (small : high < 5) :
    decodeFrom none (UInt8.ofNat (high + 0xF0) :: rest) =
      decodeFrom (some ⟨high, 3, if high = 0 then 0x90 else 0x80,
        if high = 4 then 0x8F else 0xBF⟩) rest := by
  have byte := toNat_byte (show high + 0xF0 < 256 by omega)
  have first : high + 0xF0 = 0xF0 ↔ high = 0 := by omega
  have last : high + 0xF0 = 0xF4 ↔ high = 4 := by omega
  simp only [decodeFrom, nextByte, firstByte, byte, Nat.add_sub_cancel, first, last]
  rw [if_neg (by omega), if_neg (by omega), if_neg (by omega), if_neg (by omega),
    if_pos (by omega), List.nil_append]

/-- A byte that goes on with an open character completes it or leaves it open. -/
theorem decodeFrom_open {bits missing low : Nat} {least greatest : UInt8} (small : low < 64)
    (above : least.toNat ≤ low + 0x80) (below : low + 0x80 ≤ greatest.toNat) :
    decodeFrom (some ⟨bits, missing, least, greatest⟩) (UInt8.ofNat (low + 0x80) :: rest) =
      if missing ≤ 1 then some (Char.ofNat (bits * 64 + low)) :: decodeFrom none rest
      else decodeFrom (some ⟨bits * 64 + low, missing - 1, 0x80, 0xBF⟩) rest := by
  have byte := toNat_byte (show low + 0x80 < 256 by omega)
  have fits : least ≤ UInt8.ofNat (low + 0x80) ∧ UInt8.ofNat (low + 0x80) ≤ greatest := by
    rw [UInt8.le_iff_toNat_le, UInt8.le_iff_toNat_le, byte]
    exact ⟨above, below⟩
  have sum : (low + 0x80) % 64 = low := by omega
  simp only [decodeFrom, nextByte, if_pos fits, byte, sum]
  split <;> rfl

/-- After its second byte, what goes on with a character is not restricted further. -/
theorem decodeFrom_open_free {bits missing low : Nat} (small : low < 64) :
    decodeFrom (some ⟨bits, missing, 0x80, 0xBF⟩) (UInt8.ofNat (low + 0x80) :: rest) =
      if missing ≤ 1 then some (Char.ofNat (bits * 64 + low)) :: decodeFrom none rest
      else decodeFrom (some ⟨bits * 64 + low, missing - 1, 0x80, 0xBF⟩) rest := by
  have above : (0x80 : UInt8).toNat ≤ low + 0x80 := Nat.le_add_left _ _
  have below : low + 0x80 ≤ (0xBF : UInt8).toNat := by
    change low + 0x80 ≤ 0xBF
    omega
  exact decodeFrom_open rest small above below

end Bytes

/-- What is read from the bytes of a character is the character. The cases are those of its
length. -/
theorem decodeFrom_utf8EncodeChar (c : Char) (rest : List UInt8) :
    decodeFrom none (String.utf8EncodeChar c ++ rest) = some c :: decodeFrom none rest := by
  have valid : c.toNat < 0xD800 ∨ 0xDFFF < c.toNat ∧ c.toNat < 0x110000 := c.valid
  have same : c.val.toNat = c.toNat := rfl
  have back : Char.ofNat c.toNat = c := Char.ofNat_toNat c
  simp only [String.utf8EncodeChar, same]
  generalize c.toNat = n at valid back
  have low : n % 64 < 64 := Nat.mod_lt _ (by decide)
  have middle : n / 64 % 64 < 64 := Nat.mod_lt _ (by decide)
  have upper : n / 4096 % 64 < 64 := Nat.mod_lt _ (by decide)
  split
  · have byte := toNat_byte (show n < 256 by omega)
    have ascii : n < 0x80 := by omega
    simp [decodeFrom, nextByte, firstByte, byte, ascii, back]
  · split
    · have value : n / 64 % 32 * 64 + n % 64 = n := by omega
      simp only [List.cons_append, List.nil_append]
      rw [decodeFrom_two _ (by omega) (by omega), decodeFrom_open_free _ low,
        if_pos (Nat.le_refl 1), value, back]
    · split
      · have value : (n / 4096 % 16 * 64 + n / 64 % 64) * 64 + n % 64 = n := by omega
        simp only [List.cons_append, List.nil_append]
        rw [decodeFrom_three _ (by omega), decodeFrom_open _ middle, if_neg (by decide),
          decodeFrom_open_free _ low, if_pos (Nat.le_refl 1), value, back]
        · split <;> simp only [UInt8.reduceToNat] <;> omega
        · split <;> simp only [UInt8.reduceToNat] <;> omega
      · have value :
            ((n / 262144 % 8 * 64 + n / 4096 % 64) * 64 + n / 64 % 64) * 64 + n % 64 = n := by omega
        simp only [List.cons_append, List.nil_append]
        rw [decodeFrom_four _ (by omega), decodeFrom_open _ upper, if_neg (by decide),
          decodeFrom_open_free _ middle, if_neg (by decide), decodeFrom_open_free _ low,
          if_pos (Nat.le_refl 1), value, back]
        · split <;> simp only [UInt8.reduceToNat] <;> omega
        · split <;> simp only [UInt8.reduceToNat] <;> omega

theorem decodeFrom_encode (text : String) :
    decodeFrom none (encode text) = text.toList.map some := by
  rw [encode_eq_flatMap]
  induction text.toList with
  | nil => rfl
  | cons c cs ih => rw [List.flatMap_cons, decodeFrom_utf8EncodeChar, ih, List.map_cons]

/-- A text that was encoded is decoded as it was. -/
theorem decode?_encode (text : String) : decode? (encode text) = some text := by
  have all : (text.toList.map some).mapM id = some text.toList := by
    rw [List.mapM_map]
    simpa using List.mapM_pure (m := Option) (l := text.toList) (f := id)
  rw [decode?, decodeFrom_encode, all, Option.map_some, String.ofList_toList]

theorem decodeLossy_encode (text : String) : decodeLossy (encode text) = text := by
  have all : (text.toList.map some).map (fun d => d.getD '\uFFFD') = text.toList := by
    rw [List.map_map]
    exact List.map_id _
  rw [decodeLossy, decodeFrom_encode, all, String.ofList_toList]

/-- All bytes of a longer character are outside ASCII. -/
theorem le_of_mem_utf8EncodeChar {c : Char} (long : 128 ≤ c.toNat) {b : UInt8}
    (mem : b ∈ String.utf8EncodeChar c) : 128 ≤ b.toNat := by
  have same : c.val.toNat = c.toNat := rfl
  have short : ¬c.toNat ≤ 127 := by omega
  simp only [String.utf8EncodeChar, same, if_neg short] at mem
  split at mem
  · simp only [List.mem_cons, List.not_mem_nil, or_false] at mem
    rcases mem with rfl | rfl <;> rw [toNat_byte (by omega)] <;> omega
  · split at mem
    · simp only [List.mem_cons, List.not_mem_nil, or_false] at mem
      rcases mem with rfl | rfl | rfl <;> rw [toNat_byte (by omega)] <;> omega
    · simp only [List.mem_cons, List.not_mem_nil, or_false] at mem
      rcases mem with rfl | rfl | rfl | rfl <;> rw [toNat_byte (by omega)] <;> omega

/-- Only a line feed is encoded with the byte of a line feed. -/
theorem lineFeed_notMem_encode {text : String} (unbroken : '\n' ∉ text.toList) :
    10 ∉ encode text := by
  rw [encode_eq_flatMap, List.mem_flatMap]
  rintro ⟨c, mem, byte⟩
  by_cases ascii : c.toNat < 128
  · rw [utf8EncodeChar_of_lt ascii, List.mem_singleton] at byte
    have number := congrArg UInt8.toNat byte
    rw [toNat_byte (by omega)] at number
    have feed : c = '\n' := Char.toNat_inj.1 number.symm
    rw [feed] at mem
    exact unbroken mem
  · have outside := le_of_mem_utf8EncodeChar (by omega) byte
    exact absurd outside (by decide)

/-! ### Decimal numbers -/

theorem toNat_of_isDigit {c : Char} (digit : c.isDigit = true) : 48 ≤ c.toNat ∧ c.toNat ≤ 57 :=
  Char.isDigit_iff_toNat.1 digit

theorem digit?_of_isDigit {c : Char} (digit : c.isDigit = true) :
    digit? 10 c = some (c.toNat - '0'.toNat) := by
  obtain ⟨least, greatest⟩ := toNat_of_isDigit digit
  have small : c.toNat - 48 < 10 := by omega
  simp [digit?, least, greatest, small]

/-- A number only grows by further digits. -/
theorem le_ofDigitChars (cs : List Char) (value : Nat) :
    value ≤ Nat.ofDigitChars 10 cs value := by
  induction cs generalizing value with
  | nil => exact Nat.le_refl value
  | cons c cs ih =>
      have grown := ih (10 * value + (c.toNat - '0'.toNat))
      rw [Nat.ofDigitChars_cons]
      omega

theorem readDigits_of_isDigit {cs : List Char} (digits : ∀ c ∈ cs, c.isDigit = true)
    {value bound : Nat} (small : Nat.ofDigitChars 10 cs value < bound) :
    readDigits 10 bound value cs = .ok (Nat.ofDigitChars 10 cs value) := by
  induction cs generalizing value with
  | nil => rfl
  | cons c cs ih =>
      have first := digit?_of_isDigit (digits c List.mem_cons_self)
      rw [Nat.ofDigitChars_cons] at small ⊢
      have below : value * 10 + (c.toNat - '0'.toNat) < bound := by
        have grown := le_ofDigitChars cs (10 * value + (c.toNat - '0'.toNat))
        omega
      simp only [readDigits, first, below, if_true]
      rw [Nat.mul_comm value 10]
      exact ih (fun c mem => digits c (List.mem_cons_of_mem _ mem)) small

theorem isDigit_of_mem_toString {n : Nat} {c : Char} (mem : c ∈ (toString n).toList) :
    c.isDigit = true := by
  rw [Nat.toString_eq_ofList_toDigits, String.toList_ofList] at mem
  exact Nat.isDigit_of_mem_toDigits (by decide) (by decide) mem

theorem toString_toList_ne_nil (n : Nat) : (toString n).toList ≠ [] := by
  rw [Nat.toString_eq_ofList_toDigits, String.toList_ofList]
  exact Nat.toDigits_ne_nil

/-- A number is read back from its decimal digits. -/
theorem readUnsigned_toString {n bound : Nat} (small : n < bound) :
    readUnsigned 10 bound (toString n).toList = .ok n := by
  have digits : ∀ c ∈ (toString n).toList, c.isDigit = true := fun c => isDigit_of_mem_toString
  have value : Nat.ofDigitChars 10 (toString n).toList 0 = n := by
    rw [Nat.toString_eq_ofList_toDigits, String.toList_ofList]
    exact Nat.ofDigitChars_ten_toDigits
  have read : readDigits 10 bound 0 (toString n).toList = .ok n := by
    rw [← value] at small
    rw [readDigits_of_isDigit digits small, value]
  cases text : (toString n).toList with
  | nil => exact absurd text (toString_toList_ne_nil n)
  | cons c cs =>
      rw [text] at digits read
      have noSign : c ≠ '+' := by
        rintro rfl
        have digit := digits '+' List.mem_cons_self
        cases digit
      rw [readUnsigned]
      · exact read
      · simp
      · intro _ eq
        cases eq
        exact noSign rfl

/-! ### Blanks -/

theorem isBlank_of_isDigit {c : Char} (digit : c.isDigit = true) : isBlank c = false := by
  obtain ⟨least, greatest⟩ := toNat_of_isDigit digit
  simp only [isBlank, CodeRanges.contains, blankRanges, List.any_cons, List.any_nil]
  simp
  omega

theorem trimEnd_of_visible {before : List Char} {c : Char} (visible : isBlank c = false) :
    trimEnd (before ++ [c]) = before ++ [c] := by
  simp [trimEnd, dropEndWhile, visible]

theorem trimEnd_of_blank {before : List Char} {c : Char} (blank : isBlank c = true) :
    trimEnd (before ++ [c]) = trimEnd before := by
  simp [trimEnd, dropEndWhile, blank]

theorem trimEnd_prefix (cs : List Char) : trimEnd cs <+: cs := List.rdropWhile_prefix isBlank cs

theorem trimEnd_eq_nil_iff {cs : List Char} : trimEnd cs = [] ↔ ∀ c ∈ cs, isBlank c = true :=
  List.rdropWhile_eq_nil_iff

/-- Trimming leaves nothing of a blank text, from whichever end it begins. -/
theorem trim_eq_nil_iff {cs : List Char} : trim cs = [] ↔ trimEnd cs = [] := by
  rw [trim, trimEnd_eq_nil_iff, trimEnd_eq_nil_iff]
  constructor
  · intro blank c mem
    rw [← List.takeWhile_append_dropWhile (p := isBlank) (l := cs), List.mem_append] at mem
    rcases mem with mem | mem
    · exact List.mem_takeWhile_imp mem
    · exact blank c mem
  · intro blank c mem
    exact blank c ((List.dropWhile_suffix isBlank).subset mem)

/-- A decimal number ends with a character that is not blank. -/
theorem trimEnd_toString (before : List Char) (n : Nat) :
    trimEnd (before ++ (toString n).toList) = before ++ (toString n).toList := by
  have visible : isBlank ((toString n).toList.getLast (toString_toList_ne_nil n)) = false :=
    isBlank_of_isDigit (isDigit_of_mem_toString (List.getLast_mem _))
  rw [← List.dropLast_concat_getLast (toString_toList_ne_nil n), ← List.append_assoc]
  exact trimEnd_of_visible visible

theorem trim_toString (n : Nat) : trim (' ' :: (toString n).toList) = (toString n).toList := by
  have kept : (' ' :: (toString n).toList).dropWhile isBlank = (toString n).toList := by
    rw [List.dropWhile_cons_of_pos (by decide)]
    cases text : (toString n).toList with
    | nil => rfl
    | cons c cs =>
        have digit : c.isDigit = true := by
          refine isDigit_of_mem_toString (n := n) ?_
          rw [text]
          exact List.mem_cons_self
        exact List.dropWhile_cons_of_neg (by simp [isBlank_of_isDigit digit])
  rw [trim, kept]
  exact trimEnd_toString [] n

/-! ### Lines -/

theorem linesFrom_append {before line rest : List Char} (unbroken : '\n' ∉ line) :
    LineBreak.ofChars.linesFrom before (line ++ '\n' :: rest) =
      LineBreak.ofChars.close (line.reverse ++ before) :: LineBreak.ofChars.linesFrom [] rest := by
  induction line generalizing before with
  | nil => rfl
  | cons c line ih =>
      simp only [List.mem_cons, not_or] at unbroken
      have other : (c == LineBreak.ofChars.feed) = false := by
        simpa [LineBreak.ofChars] using Ne.symm unbroken.1
      simp [LineBreak.linesFrom, other, ih unbroken.2]

/-- What follows the last line feed is a line as it is. -/
theorem linesFrom_of_notMem {before line : List Char} (unbroken : '\n' ∉ line)
    (filled : line.reverse ++ before ≠ []) :
    LineBreak.ofChars.linesFrom before line = [(line.reverse ++ before).reverse] := by
  induction line generalizing before with
  | nil =>
      have held : before.isEmpty = false := List.isEmpty_eq_false_iff.2 filled
      simp [LineBreak.linesFrom, held]
  | cons c line ih =>
      simp only [List.mem_cons, not_or] at unbroken
      have other : (c == LineBreak.ofChars.feed) = false := by
        simpa [LineBreak.ofChars] using Ne.symm unbroken.1
      rw [LineBreak.linesFrom, other, if_neg Bool.false_ne_true, ih unbroken.2 (by simp)]
      simp

theorem lines_of_notMem {line : List Char} (unbroken : '\n' ∉ line) (filled : line ≠ []) :
    lines line = [line] := by
  rw [lines, LineBreak.lines, linesFrom_of_notMem unbroken (by simpa using filled)]
  simp

theorem mem_of_mem_close {before : List Char} {c : Char}
    (mem : c ∈ LineBreak.ofChars.close before) : c ∈ before := by
  cases before with
  | nil => exact mem
  | cons d before =>
      rw [LineBreak.close] at mem
      split at mem
      · exact List.mem_cons_of_mem _ (List.mem_reverse.1 mem)
      · exact List.mem_reverse.1 mem

theorem lineFeed_notMem_of_mem_linesFrom {before cs line : List Char} (unbroken : '\n' ∉ before)
    (mem : line ∈ LineBreak.ofChars.linesFrom before cs) : '\n' ∉ line := by
  induction cs generalizing before with
  | nil =>
      rw [LineBreak.linesFrom] at mem
      split at mem
      · cases mem
      · rw [List.mem_singleton.1 mem, List.mem_reverse]
        exact unbroken
  | cons c cs ih =>
      rw [LineBreak.linesFrom] at mem
      split at mem
      · rcases List.mem_cons.1 mem with rfl | mem
        · exact fun feed => unbroken (mem_of_mem_close feed)
        · exact ih List.not_mem_nil mem
      · rename_i other
        refine ih ?_ mem
        rw [List.mem_cons, not_or]
        exact ⟨fun feed => other (by simp [← feed, LineBreak.ofChars]), unbroken⟩

/-- No line has a line feed in it. -/
theorem lineFeed_notMem_of_mem_lines {text line : List Char} (mem : line ∈ lines text) :
    '\n' ∉ line := lineFeed_notMem_of_mem_linesFrom List.not_mem_nil mem

theorem close_reverse {line : List Char} (noReturn : '\r' ∉ line) :
    LineBreak.ofChars.close line.reverse = line := by
  cases eq : line.reverse with
  | nil => simpa [LineBreak.close] using (List.reverse_eq_nil_iff.1 eq).symm
  | cons c before =>
      have mem : c ∈ line := by
        rw [← List.mem_reverse, eq]
        exact List.mem_cons_self
      have other : (c == LineBreak.ofChars.carriageReturn) = false := by
        refine beq_eq_false_iff_ne.2 ?_
        rintro rfl
        exact noReturn mem
      rw [LineBreak.close, other, ← eq]
      simp

/-- Lines that are each ended are read one by one. -/
theorem lines_flatMap {ls : List (List Char)}
    (unbroken : ∀ line ∈ ls, '\n' ∉ line ∧ '\r' ∉ line) :
    lines (ls.flatMap (· ++ ['\n'])) = ls := by
  rw [lines, LineBreak.lines]
  induction ls with
  | nil => rfl
  | cons line rest ih =>
      obtain ⟨noFeed, noReturn⟩ := unbroken line List.mem_cons_self
      have later := ih fun l mem => unbroken l (List.mem_cons_of_mem _ mem)
      rw [List.flatMap_cons, List.append_assoc, List.singleton_append, linesFrom_append noFeed,
        List.append_nil, close_reverse noReturn, later]

end GuestDebugger.Text
