import GuestDebugger.Proofs.Listing.Words
import GuestDebugger.Text.Lemmas

/-! # Quoted arguments and comments

An argument stands in single quotes as it is, or in double quotes with backslashes before those
characters that would not stay as they are. Split into words, a line gives it back. But where the
comment starts is found before, from double quotes alone, and those count that stand in single
quotes or behind a backslash. An argument is therefore read back exactly if each semicolon in it
comes after an odd number of its own double quotes (in single quotes) or after an even number of
them (in double quotes); otherwise the line ends at a semicolon, with the quotes open. -/

namespace GuestDebugger

namespace Text

/-- The quotes that an argument stands in. -/
inductive Quotes where
  /-- Single quotes. -/
  | single
  /-- Double quotes. -/
  | double
deriving DecidableEq, Repr

namespace Quotes

/-- The character at both ends. -/
def mark : Quotes → Char
  | single => '\x27'
  | double => '"'

/-- What the reader of words is inside of. -/
def mode : Quotes → WordMode
  | single => .single
  | double => .double

/-- A character as it is written between the quotes. -/
def written : Quotes → Char → List Char
  | single, c => [c]
  | double, c => if isDoubleEscapable c then ['\\', c] else [c]

/-- What can be written between the quotes: in single quotes, all but a single quote. -/
def Fits (q : Quotes) (cs : List Char) : Prop := q = single → '\x27' ∉ cs

/-- A text in quotes. -/
def enclose (q : Quotes) (text : String) : String :=
  String.ofList (q.mark :: text.toList.flatMap q.written ++ [q.mark])

/-! ### Reading words -/

variable {q : Quotes} {c : Char} {cs word rest : List Char}

theorem Fits.head (fits : q.Fits (c :: cs)) : q = single → c ≠ '\x27' := by
  rintro single rfl
  exact fits single List.mem_cons_self

theorem Fits.tail (fits : q.Fits (c :: cs)) : q.Fits cs := fun single mem =>
  fits single (List.mem_cons_of_mem _ mem)

theorem wordsFrom_written (readable : q = single → c ≠ '\x27') :
    wordsFrom q.mode word (q.written c ++ rest) = wordsFrom q.mode (c :: word) rest := by
  cases q with
  | single => simp [written, mode, wordsFrom, readable rfl]
  | double =>
      by_cases escapable : isDoubleEscapable c = true
      · simp [written, mode, wordsFrom, escapable]
      · have plain : c ≠ '"' ∧ c ≠ '\\' := by
          constructor <;> rintro rfl <;> exact escapable rfl
        simp [written, mode, wordsFrom, escapable, plain]

theorem wordsFrom_flatMap_written (fits : q.Fits cs) :
    wordsFrom q.mode word (cs.flatMap q.written ++ rest) =
      wordsFrom q.mode (cs.reverse ++ word) rest := by
  induction cs generalizing word with
  | nil => rfl
  | cons c cs ih =>
      rw [List.flatMap_cons, List.append_assoc, wordsFrom_written fits.head, ih fits.tail,
        List.reverse_cons, List.append_assoc]
      rfl

/-- Closed quotes end the word, at the end of a line. -/
theorem wordsFrom_mark : wordsFrom q.mode word [q.mark] = some [word.reverse] := by
  cases q <;> rfl

/-- Quotes have to be closed. -/
theorem wordsFrom_mode_nil : wordsFrom q.mode word [] = none := by
  cases q <;> rfl

end Quotes

end Text

namespace Listing

open Text

/-! ### Where comments start -/

/-- There is a semicolon outside double quotes, if every double quote counts and the characters
stand inside double quotes or outside of them. -/
def Exposed (inQuotes : Bool) (cs : List Char) : Prop :=
  ∃ before after, cs = before ++ ';' :: after ∧ (before.count '"' % 2 = 1 ↔ inQuotes = true)

/-- Whether double quotes are open behind a character. -/
def inQuotesAfter (inQuotes : Bool) (c : Char) : Bool := if c = '"' then !inQuotes else inQuotes

variable {q : Quotes} {inQuotes : Bool} {c : Char} {cs rest : List Char}

theorem not_exposed_nil : ¬Exposed inQuotes [] := by
  rintro ⟨before, after, eq, -⟩
  simp at eq

/-- A double quote in front turns it around whether double quotes are open. -/
theorem odd_count_cons_iff :
    ((c :: cs).count '"' % 2 = 1 ↔ inQuotes = true) ↔
      (cs.count '"' % 2 = 1 ↔ inQuotesAfter inQuotes c = true) := by
  by_cases quote : c = '"'
  · subst quote
    rw [List.count_cons_self]
    cases inQuotes <;> simp [inQuotesAfter] <;> omega
  · rw [List.count_cons_of_ne quote, inQuotesAfter, if_neg quote]

theorem exposed_cons_iff :
    Exposed inQuotes (c :: cs) ↔
      c = ';' ∧ inQuotes = false ∨ Exposed (inQuotesAfter inQuotes c) cs := by
  constructor
  · rintro ⟨before, after, eq, parity⟩
    cases before with
    | nil =>
        obtain ⟨rfl, rfl⟩ := List.cons.inj eq
        exact .inl ⟨rfl, by simpa using parity⟩
    | cons d before =>
        obtain ⟨rfl, rfl⟩ := List.cons.inj eq
        exact .inr ⟨before, after, rfl, odd_count_cons_iff.1 parity⟩
  · rintro (⟨rfl, rfl⟩ | ⟨before, after, rfl, parity⟩)
    · exact ⟨[], cs, rfl, by simp⟩
    · exact ⟨c :: before, after, rfl, odd_count_cons_iff.2 parity⟩

instance decidableExposed : (inQuotes : Bool) → (cs : List Char) → Decidable (Exposed inQuotes cs)
  | _, [] => isFalse not_exposed_nil
  | inQuotes, c :: cs =>
    have := decidableExposed (inQuotesAfter inQuotes c) cs
    decidable_of_iff _ exposed_cons_iff.symm

/-- A part of a line is what comes before the comment: none of its semicolons stands outside double
quotes, and it is all of the line, or the first one that does is what follows. -/
structure Precedes (inQuotes : Bool) (before line : List Char) : Prop where
  hidden : ¬Exposed inQuotes before
  follows : line = before ∨
    ∃ comment, line = before ++ ';' :: comment ∧ (before.count '"' % 2 = 1 ↔ inQuotes = true)

theorem precedes_cons_iff {before : List Char} (hidden : ¬(c = ';' ∧ inQuotes = false)) :
    Precedes inQuotes (c :: before) (c :: rest) ↔
      Precedes (inQuotesAfter inQuotes c) before rest := by
  have exposed : Exposed inQuotes (c :: before) ↔ Exposed (inQuotesAfter inQuotes c) before :=
    exposed_cons_iff.trans (or_iff_right hidden)
  constructor
  · rintro ⟨unexposed, follows⟩
    refine ⟨fun here => unexposed (exposed.2 here), ?_⟩
    rcases follows with all | ⟨comment, parts, parity⟩
    · exact .inl (List.cons.inj all).2
    · exact .inr ⟨comment, (List.cons.inj parts).2, odd_count_cons_iff.1 parity⟩
  · rintro ⟨unexposed, follows⟩
    refine ⟨fun here => unexposed (exposed.1 here), ?_⟩
    rcases follows with rfl | ⟨comment, rfl, parity⟩
    · exact .inl rfl
    · exact .inr ⟨comment, rfl, odd_count_cons_iff.2 parity⟩

theorem Precedes.head_eq {d : Char} {before : List Char}
    (precedes : Precedes inQuotes (d :: before) (c :: rest)) : c = d := by
  rcases precedes.follows with all | ⟨comment, parts, -⟩
  · exact (List.cons.inj all).1
  · exact (List.cons.inj parts).1

theorem beforeComment_cons (hidden : ¬(c = ';' ∧ inQuotes = false)) :
    beforeComment inQuotes (c :: rest) =
      c :: beforeComment (inQuotesAfter inQuotes c) rest := by
  have goesOn : (c == ';' && !inQuotes) = false := by simpa using hidden
  simp [beforeComment, goesOn, inQuotesAfter]

/-- What is read of a line is what comes before the comment. The induction is on the line. -/
theorem precedes_iff {before line : List Char} :
    Precedes inQuotes before line ↔ before = beforeComment inQuotes line := by
  induction line generalizing inQuotes before with
  | nil =>
      constructor
      · rintro ⟨-, all | ⟨comment, parts, -⟩⟩
        · exact all.symm
        · simp at parts
      · rintro rfl
        exact ⟨not_exposed_nil, .inl rfl⟩
  | cons c rest ih =>
      by_cases starts : c = ';' ∧ inQuotes = false
      · obtain ⟨rfl, rfl⟩ := starts
        constructor
        · intro precedes
          cases before with
          | nil => rfl
          | cons d before =>
              obtain rfl := precedes.head_eq
              exact absurd (exposed_cons_iff.2 (.inl ⟨rfl, rfl⟩)) precedes.hidden
        · rintro rfl
          exact ⟨not_exposed_nil, .inr ⟨rest, rfl, by simp [beforeComment]⟩⟩
      · rw [beforeComment_cons starts]
        constructor
        · intro precedes
          cases before with
          | nil =>
              rcases precedes.follows with all | ⟨comment, parts, parity⟩
              · cases all
              · exact absurd ⟨(List.cons.inj parts).1, by simpa using parity⟩ starts
          | cons d before =>
              obtain rfl := precedes.head_eq
              rw [ih.1 ((precedes_cons_iff starts).1 precedes)]
        · rintro rfl
          exact (precedes_cons_iff starts).2 (ih.2 rfl)

theorem beforeComment_written_of_exposed :
    beforeComment false (q.written ';' ++ rest) = [] := by
  cases q <;> rfl

/-- A backslash changes nothing about where the comment starts. -/
theorem beforeComment_written (hidden : ¬(c = ';' ∧ inQuotes = false)) :
    beforeComment inQuotes (q.written c ++ rest) =
      q.written c ++ beforeComment (inQuotesAfter inQuotes c) rest := by
  have plain : beforeComment inQuotes (c :: rest) =
      c :: beforeComment (inQuotesAfter inQuotes c) rest := beforeComment_cons hidden
  cases q with
  | single => exact plain
  | double =>
      by_cases escapable : isDoubleEscapable c = true
      · have backslash : beforeComment inQuotes ('\\' :: c :: rest) =
            '\\' :: beforeComment inQuotes (c :: rest) := rfl
        simp only [Quotes.written, if_pos escapable, List.cons_append, List.nil_append]
        rw [backslash, plain]
      · simp only [Quotes.written, if_neg escapable]
        exact plain

/-- Characters without an exposed semicolon are all before the comment. -/
theorem beforeComment_flatMap_written (q : Quotes) (rest : List Char)
    (hidden : ¬Exposed inQuotes cs) :
    ∃ inQuotes', beforeComment inQuotes (cs.flatMap q.written ++ rest) =
      cs.flatMap q.written ++ beforeComment inQuotes' rest := by
  induction cs generalizing inQuotes with
  | nil => exact ⟨inQuotes, rfl⟩
  | cons c cs ih =>
      rw [exposed_cons_iff, not_or] at hidden
      obtain ⟨inQuotes', later⟩ := ih hidden.2
      refine ⟨inQuotes', ?_⟩
      rw [List.flatMap_cons, List.append_assoc, beforeComment_written hidden.1, later,
        List.append_assoc]

/-- Of characters with an exposed semicolon only the first ones are before the comment. -/
theorem beforeComment_flatMap_written_of_exposed (q : Quotes) (rest : List Char)
    (exposed : Exposed inQuotes cs) :
    ∃ before, before <+: cs ∧
      beforeComment inQuotes (cs.flatMap q.written ++ rest) = before.flatMap q.written := by
  induction cs generalizing inQuotes with
  | nil => exact absurd exposed not_exposed_nil
  | cons c cs ih =>
      by_cases here : c = ';' ∧ inQuotes = false
      · obtain ⟨rfl, rfl⟩ := here
        refine ⟨[], List.nil_prefix, ?_⟩
        rw [List.flatMap_cons, List.append_assoc, beforeComment_written_of_exposed]
        rfl
      · obtain ⟨before, first, later⟩ := ih ((exposed_cons_iff.1 exposed).resolve_left here)
        refine ⟨c :: before, List.cons_prefix_cons.2 ⟨rfl, first⟩, ?_⟩
        rw [List.flatMap_cons, List.append_assoc, beforeComment_written here, later,
          List.flatMap_cons]

/-! ### Lines that write a text -/

/-- A line that writes a text. -/
def writeLine (q : Quotes) (text : String) : String := "10 write " ++ q.enclose text

theorem toList_writeLine (q : Quotes) (text : String) :
    (writeLine q text).toList =
      "10 write ".toList ++ q.mark :: (text.toList.flatMap q.written ++ [q.mark]) := by
  simp [writeLine, Quotes.enclose]

theorem beforeComment_head :
    beforeComment false ("10 write ".toList ++ q.mark :: rest) =
      "10 write ".toList ++ q.mark :: beforeComment (q = .double) rest := by
  cases q <;> rfl

theorem wordsFrom_head :
    wordsFrom .gap [] ("10 write ".toList ++ q.mark :: rest) =
      ((wordsFrom q.mode [] rest).map ("write".toList :: ·)).map ("10".toList :: ·) := by
  cases q <;> rfl

theorem readWords_write (text : String) :
    readWords ["10", "write", text] = .ok (some (0x10, .write text)) := by
  rfl

theorem readLine_writeLine {text : String} (fits : q.Fits text.toList)
    (hidden : ¬Exposed (q = .double) text.toList) :
    readLine (writeLine q text).toList = .ok (some (0x10, .write text)) := by
  obtain ⟨inQuotes, kept⟩ := beforeComment_flatMap_written q [q.mark] hidden
  have mark : beforeComment inQuotes [q.mark] = [q.mark] := by
    cases q <;> rfl
  rw [mark] at kept
  rw [toList_writeLine, readLine, beforeComment_head, kept, words, wordsFrom_head,
    Quotes.wordsFrom_flatMap_written fits, Quotes.wordsFrom_mark]
  simpa using readWords_write text

theorem readLine_writeLine_of_exposed {text : String} (fits : q.Fits text.toList)
    (exposed : Exposed (q = .double) text.toList) :
    readLine (writeLine q text).toList = .error .unbalancedQuotes := by
  obtain ⟨before, first, cut⟩ :=
    beforeComment_flatMap_written_of_exposed q [q.mark] exposed
  have fitting : q.Fits before := fun single mem => fits single (first.subset mem)
  have cutWords : wordsFrom q.mode [] (before.flatMap q.written) = none := by
    rw [← List.append_nil (before.flatMap q.written), Quotes.wordsFrom_flatMap_written fitting,
      Quotes.wordsFrom_mode_nil]
  rw [toList_writeLine, readLine, beforeComment_head, cut, words, wordsFrom_head, cutWords]
  rfl

theorem notMem_writeLine {text : String} (unbroken : '\n' ∉ text.toList) :
    '\n' ∉ (writeLine q text).toList := by
  have mark : '\n' ≠ q.mark := by
    cases q <;> decide
  have written : ∀ c, '\n' ∈ q.written c → c = '\n' := by
    intro c mem
    cases q with
    | single => exact (List.mem_singleton.1 mem).symm
    | double =>
        rw [Quotes.written] at mem
        split at mem <;> simp at mem <;> exact mem.symm
  rw [toList_writeLine, List.mem_append, List.mem_cons, List.mem_append, List.mem_flatMap]
  rintro (head | opened | ⟨c, mem, here⟩ | closed)
  · exact absurd head (by decide)
  · exact mark opened
  · exact unbroken (written c here ▸ mem)
  · exact mark (List.mem_singleton.1 closed)

/-- A text that is written in quotes is read back exactly if it has no exposed semicolon. If it has
one, the line is refused. -/
theorem parse_writeLine_iff {text : String} (unbroken : '\n' ∉ text.toList)
    (fits : q.Fits text.toList) :
    (parse (writeLine q text) = .ok (.ofOps [(0x10, .write text)]) ↔
        ¬Exposed (q = .double) text.toList) ∧
      (parse (writeLine q text) = .error (.badLine 1 .unbalancedQuotes) ↔
        Exposed (q = .double) text.toList) := by
  have line : lines (writeLine q text).toList = [(writeLine q text).toList] := by
    refine lines_of_notMem (notMem_writeLine unbroken) fun empty => ?_
    simp [toList_writeLine] at empty
  by_cases exposed : Exposed (q = .double) text.toList
  · have refused : parse (writeLine q text) = .error (.badLine 1 .unbalancedQuotes) := by
      rw [parse, line, readLines, readLine_writeLine_of_exposed fits exposed]
    simp [refused, exposed]
  · have accepted : parse (writeLine q text) = .ok (.ofOps [(0x10, .write text)]) := by
      rw [parse, line, readLines, readLine_writeLine fits exposed]
      rfl
    simp [accepted, exposed]

/-- Texts in which both double quotes and semicolons are read back. -/
theorem parse_writeLine_iff_of_hidden :
    parse (writeLine .double "say \"hi\"; $5 `ls` \\") =
        .ok (.ofOps [(0x10, .write "say \"hi\"; $5 `ls` \\")]) ∧
      parse (writeLine .single "# \"a; b\"") = .ok (.ofOps [(0x10, .write "# \"a; b\"")]) := by
  constructor
  · exact (parse_writeLine_iff (q := .double) (by decide) nofun).1.2 (by decide)
  · exact (parse_writeLine_iff (q := .single) (by decide) fun _ => by decide).1.2 (by decide)

/-- A semicolon in quotes may start a comment: behind one double quote if the quotes are double
ones, and behind none if they are single ones. -/
theorem quoted_semicolon_starts_comment :
    writeLine .double "5\" disk; full" = "10 write \"5\\\" disk; full\"" ∧
      parse "10 write \"5\\\" disk; full\"" = .error (.badLine 1 .unbalancedQuotes) ∧
      writeLine .single "a; b" = "10 write 'a; b'" ∧
      parse "10 write 'a; b'" = .error (.badLine 1 .unbalancedQuotes) :=
  ⟨by decide, rfl, by decide, rfl⟩

end Listing

end GuestDebugger
