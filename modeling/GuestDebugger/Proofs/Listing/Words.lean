import GuestDebugger.Listing.Reader

/-! # Words as they are spelled

A word of a line stands there bare or between double quotes, words are parted by single spaces.
Split into words, such a line gives the words back, and none of it is taken for a comment. -/

namespace GuestDebugger

namespace Text

/-! ### Characters -/

/-- Whether a character may stand in a bare word. -/
def isPlain (c : Char) : Bool := c.isAlphanum || c == ',' || c == '-'

/-- The characters with a meaning of their own outside quotes. -/
def specialChars : List Char := [' ', '\t', '\n', '\r', '#', '"', '\x27', '\\', ';']

theorem ne_of_isPlain {c d : Char} (plain : isPlain c = true) (special : d ∈ specialChars) :
    c ≠ d := by
  have noneSpecial : ∀ d ∈ specialChars, (!isPlain d) = true := List.all_eq_true.1 (by decide)
  rintro rfl
  have noPlain := noneSpecial c special
  rw [plain] at noPlain
  cases noPlain

/-- Whether a character keeps its meaning in quotes: it is written as itself, or behind a backslash
that quotes take away. -/
def Quotable (c : Char) : Prop := quotedChar c = [c] ∨ c = '"' ∨ c = '\\'

instance (c : Char) : Decidable (Quotable c) :=
  inferInstanceAs (Decidable (quotedChar c = [c] ∨ c = '"' ∨ c = '\\'))

theorem Quotable.ne_lineBreak {c : Char} (quotable : Quotable c) : c ≠ '\n' ∧ c ≠ '\r' := by
  constructor <;>
  · rintro rfl
    rcases quotable with same | eq | eq
    · exact absurd same (by decide)
    · cases eq
    · cases eq

/-- In quotes, only backslashes are added. -/
theorem Quotable.eq_or_eq {c d : Char} (quotable : Quotable c) (mem : d ∈ quotedChar c) :
    d = c ∨ d = '\\' := by
  rcases quotable with same | rfl | rfl
  · rw [same, List.mem_singleton] at mem
    exact .inl mem
  · have chars : quotedChar '"' = ['\\', '"'] := rfl
    simpa [chars, or_comm] using mem
  · have chars : quotedChar '\\' = ['\\', '\\'] := rfl
    simpa [chars] using mem

/-! ### Spellings -/

/-- A word as it stands in a line. -/
inductive Spelling where
  /-- The word as it is. -/
  | bare (text : String)
  /-- The word in double quotes. -/
  | quoted (text : String)

namespace Spelling

/-- The word. -/
def text : Spelling → String
  | bare text | quoted text => text

/-- The characters in the line. -/
def chars : Spelling → List Char
  | bare text => text.toList
  | quoted text => quotedChars text.toList

/-- Whether the word is read back. -/
def Readable : Spelling → Prop
  | bare text => text ≠ "" ∧ ∀ c ∈ text.toList, isPlain c = true
  | quoted text => ∀ c ∈ text.toList, Quotable c

variable {s : Spelling} {c : Char}

/-- A line has no characters but those of its words, and quotes, and backslashes. -/
theorem Readable.mem_text (readable : s.Readable) (mem : c ∈ s.chars) :
    c ∈ s.text.toList ∨ c = '"' ∨ c = '\\' := by
  cases s with
  | bare text => exact .inl mem
  | quoted text =>
      simp only [chars, quotedChars, List.cons_append, List.mem_cons, List.mem_append,
        List.mem_flatMap, List.not_mem_nil, or_false] at mem
      rcases mem with quote | ⟨d, there, mem⟩ | quote
      · exact .inr (.inl quote)
      · rcases (readable d there).eq_or_eq mem with rfl | backslash
        · exact .inl there
        · exact .inr (.inr backslash)
      · exact .inr (.inl quote)

theorem Readable.ne_lineBreak (readable : s.Readable) (mem : c ∈ s.chars) :
    c ≠ '\n' ∧ c ≠ '\r' := by
  rcases readable.mem_text mem with there | rfl | rfl
  · cases s with
    | bare text =>
        have plain := readable.2 c there
        exact ⟨ne_of_isPlain plain (by decide), ne_of_isPlain plain (by decide)⟩
    | quoted text => exact (readable c there).ne_lineBreak
  · decide
  · decide

/-- A bare word has neither double quotes nor semicolons. -/
theorem Readable.notMem_bare {text : String} (readable : (bare text).Readable) :
    '"' ∉ text.toList ∧ ';' ∉ text.toList :=
  ⟨fun mem => ne_of_isPlain (readable.2 _ mem) (by decide) rfl,
    fun mem => ne_of_isPlain (readable.2 _ mem) (by decide) rfl⟩

end Spelling

/-- A line of spelled words. -/
def spell : List Spelling → List Char
  | [] => []
  | [s] => s.chars
  | s :: t :: rest => s.chars ++ ' ' :: spell (t :: rest)

theorem mem_spell {ss : List Spelling} {c : Char} (mem : c ∈ spell ss) :
    c = ' ' ∨ ∃ s ∈ ss, c ∈ s.chars := by
  induction ss using spell.induct with
  | case1 => cases mem
  | case2 s => exact .inr ⟨s, List.mem_cons_self, mem⟩
  | case3 s t rest ih =>
      rw [spell, List.mem_append, List.mem_cons] at mem
      rcases mem with first | space | later
      · exact .inr ⟨s, List.mem_cons_self, first⟩
      · exact .inl space
      · exact (ih later).imp_right fun ⟨u, there, mem⟩ => ⟨u, List.mem_cons_of_mem _ there, mem⟩

/-! ### Reading words -/

variable {word rest : List Char}

theorem wordsFrom_gap_of_isPlain {c : Char} (plain : isPlain c = true) :
    wordsFrom .gap word (c :: rest) = wordsFrom .bare [c] rest := by
  have ne := fun d => ne_of_isPlain (d := d) plain
  simp [wordsFrom, isWordSeparator, ne ' ' (by decide), ne '\t' (by decide), ne '\n' (by decide),
    ne '#' (by decide), ne '"' (by decide), ne '\x27' (by decide), ne '\\' (by decide)]

theorem wordsFrom_bare_of_isPlain {c : Char} (plain : isPlain c = true) :
    wordsFrom .bare word (c :: rest) = wordsFrom .bare (c :: word) rest := by
  have ne := fun d => ne_of_isPlain (d := d) plain
  simp [wordsFrom, isWordSeparator, ne ' ' (by decide), ne '\t' (by decide), ne '\n' (by decide),
    ne '"' (by decide), ne '\x27' (by decide), ne '\\' (by decide)]

theorem wordsFrom_bare_append {cs : List Char} (plain : ∀ c ∈ cs, isPlain c = true) :
    wordsFrom .bare word (cs ++ rest) = wordsFrom .bare (cs.reverse ++ word) rest := by
  induction cs generalizing word with
  | nil => rfl
  | cons c cs ih =>
      rw [List.cons_append, wordsFrom_bare_of_isPlain (plain c List.mem_cons_self),
        ih fun d mem => plain d (List.mem_cons_of_mem _ mem), List.reverse_cons, List.append_assoc]
      rfl

theorem wordsFrom_double_quotedChar {c : Char} (quotable : Quotable c) :
    wordsFrom .double word (quotedChar c ++ rest) = wordsFrom .double (c :: word) rest := by
  rcases quotable with same | rfl | rfl
  · have noQuote : c ≠ '"' := by
      rintro rfl
      exact absurd same (by decide)
    have noBackslash : c ≠ '\\' := by
      rintro rfl
      exact absurd same (by decide)
    simp [same, wordsFrom, noQuote, noBackslash]
  · rfl
  · rfl

theorem wordsFrom_double_append {cs : List Char} (quotable : ∀ c ∈ cs, Quotable c) :
    wordsFrom .double word (cs.flatMap quotedChar ++ rest) =
      wordsFrom .double (cs.reverse ++ word) rest := by
  induction cs generalizing word with
  | nil => rfl
  | cons c cs ih =>
      rw [List.flatMap_cons, List.append_assoc,
        wordsFrom_double_quotedChar (quotable c List.mem_cons_self),
        ih fun d mem => quotable d (List.mem_cons_of_mem _ mem), List.reverse_cons,
        List.append_assoc]
      rfl

/-- A spelled word is read, whatever follows. -/
theorem wordsFrom_chars {s : Spelling} (readable : s.Readable) :
    wordsFrom .gap word (s.chars ++ rest) = wordsFrom .bare s.text.toList.reverse rest := by
  cases s with
  | bare text =>
      obtain ⟨filled, plain⟩ := readable
      simp only [Spelling.chars, Spelling.text]
      cases cs : text.toList with
      | nil => exact absurd (by simpa using cs) filled
      | cons c cs' =>
          rw [cs] at plain
          rw [List.cons_append, wordsFrom_gap_of_isPlain (plain c List.mem_cons_self),
            wordsFrom_bare_append fun d mem => plain d (List.mem_cons_of_mem _ mem),
            List.reverse_cons]
  | quoted text =>
      have opened : wordsFrom .gap word ('"' :: (text.toList.flatMap quotedChar ++ '"' :: rest)) =
          wordsFrom .double [] (text.toList.flatMap quotedChar ++ '"' :: rest) := rfl
      have closed : wordsFrom .double text.toList.reverse ('"' :: rest) =
          wordsFrom .bare text.toList.reverse rest := rfl
      simp only [Spelling.chars, quotedChars, List.cons_append, List.append_assoc, List.nil_append]
      rw [opened, wordsFrom_double_append readable, List.append_nil, closed]
      rfl

/-- The words of a line of spelled words. -/
theorem words_spell {ss : List Spelling} (readable : ∀ s ∈ ss, s.Readable) :
    words (spell ss) = some (ss.map Spelling.text) := by
  have read : wordsFrom .gap [] (spell ss) = some (ss.map (·.text.toList)) := by
    induction ss using spell.induct with
    | case1 => rfl
    | case2 s =>
        rw [spell, ← List.append_nil s.chars, wordsFrom_chars (readable s List.mem_cons_self)]
        simp [wordsFrom]
    | case3 s t rest ih =>
        have later := ih fun u mem => readable u (List.mem_cons_of_mem _ mem)
        rw [spell, wordsFrom_chars (readable s List.mem_cons_self)]
        simp [wordsFrom, isWordSeparator, later]
  rw [words, read, Option.map_some, List.map_map]
  simp [Function.comp_def]

end Text

/-! ### Comments -/

namespace Listing

variable {inQuotes : Bool} {cs rest : List Char}

theorem beforeComment_of_notMem (unmarked : ';' ∉ cs) : beforeComment inQuotes cs = cs := by
  induction cs generalizing inQuotes with
  | nil => rfl
  | cons c cs ih =>
      simp only [List.mem_cons, not_or] at unmarked
      simp [beforeComment, Ne.symm unmarked.1, ih unmarked.2]

theorem beforeComment_append (noQuote : '"' ∉ cs) (unmarked : inQuotes = true ∨ ';' ∉ cs) :
    beforeComment inQuotes (cs ++ rest) = cs ++ beforeComment inQuotes rest := by
  induction cs with
  | nil => rfl
  | cons c cs ih =>
      simp only [List.mem_cons, not_or] at noQuote unmarked
      have hidden : (c == ';' && !inQuotes) = false := by
        rcases unmarked with rfl | unmarked
        · simp
        · simp [Ne.symm unmarked.1]
      simp [beforeComment, hidden, Ne.symm noQuote.1, ih noQuote.2 (unmarked.imp_right And.right)]

open Text

theorem beforeComment_chars {s : Spelling} (readable : s.Readable)
    (noQuote : '"' ∉ s.text.toList) :
    beforeComment false (s.chars ++ rest) = s.chars ++ beforeComment false rest := by
  cases s with
  | bare text => exact beforeComment_append noQuote (.inr readable.notMem_bare.2)
  | quoted text =>
      have inner : '"' ∉ text.toList.flatMap quotedChar := by
        intro mem
        obtain ⟨c, there, mem⟩ := List.mem_flatMap.1 mem
        rcases (readable c there).eq_or_eq mem with rfl | eq
        · exact noQuote there
        · cases eq
      have opened : beforeComment false ('"' :: (text.toList.flatMap quotedChar ++ '"' :: rest)) =
          '"' :: beforeComment true (text.toList.flatMap quotedChar ++ '"' :: rest) := rfl
      have closed : beforeComment true ('"' :: rest) = '"' :: beforeComment false rest := rfl
      simp only [Spelling.chars, quotedChars, List.cons_append, List.append_assoc, List.nil_append]
      rw [opened, beforeComment_append inner (.inl rfl), closed]

/-- None of a line of spelled words is a comment, if quotes in words go with no semicolons in
words. -/
theorem beforeComment_spell {ss : List Spelling} (readable : ∀ s ∈ ss, s.Readable)
    (apart : (∀ s ∈ ss, '"' ∉ s.text.toList) ∨ ∀ s ∈ ss, ';' ∉ s.text.toList) :
    beforeComment false (spell ss) = spell ss := by
  rcases apart with noQuote | unmarked
  · induction ss using spell.induct with
    | case1 => rfl
    | case2 s =>
        have first := readable s List.mem_cons_self
        rw [spell, ← List.append_nil s.chars,
          beforeComment_chars first (noQuote s List.mem_cons_self)]
        rfl
    | case3 s t rest ih =>
        have first := readable s List.mem_cons_self
        have space : beforeComment false (' ' :: spell (t :: rest)) =
            ' ' :: beforeComment false (spell (t :: rest)) := rfl
        rw [spell, beforeComment_chars first (noQuote s List.mem_cons_self), space,
          ih (fun u mem => readable u (List.mem_cons_of_mem _ mem))
            fun u mem => noQuote u (List.mem_cons_of_mem _ mem)]
  · refine beforeComment_of_notMem fun mem => ?_
    rcases mem_spell mem with eq | ⟨s, there, mem⟩
    · cases eq
    · rcases (readable s there).mem_text mem with mem | eq | eq
      · exact unmarked s there mem
      · cases eq
      · cases eq

end Listing

end GuestDebugger
