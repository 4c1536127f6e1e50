import GuestDebugger.Proofs.Listing.Comments
import GuestDebugger.Proofs.Listing.Instructions

/-! # Lines of a listing

A line of a listing is blank, or a comment, or an address and a valid instruction. What is read from
a line is what it holds by this rule, and a line that holds nothing of the kind is malformed. -/

namespace GuestDebugger

namespace Text

/-! ### Lines without words -/

variable {mode : WordMode} {word cs : List Char}

/-- A word that is open ends some time. -/
theorem wordsFrom_ne_nil (within : mode ≠ .gap ∧ mode ≠ .comment) :
    wordsFrom mode word cs ≠ some [] := by
  induction cs generalizing mode word with
  | nil =>
      cases mode with
      | gap => exact absurd rfl within.1
      | comment => exact absurd rfl within.2
      | bare | bareEscape | single | double | doubleEscape => simp [wordsFrom]
  | cons c cs ih =>
      cases mode with
      | gap => exact absurd rfl within.1
      | comment => exact absurd rfl within.2
      | bare =>
          rw [wordsFrom]
          split
          · simp
          · split
            · exact ih (by decide)
            · split
              · exact ih (by decide)
              · split <;> exact ih (by decide)
      | bareEscape => exact ih (by decide)
      | single =>
          rw [wordsFrom]
          split <;> exact ih (by decide)
      | double =>
          rw [wordsFrom]
          split
          · exact ih (by decide)
          · split <;> exact ih (by decide)
      | doubleEscape =>
          rw [wordsFrom]
          split
          · exact ih (by decide)
          · split <;> exact ih (by decide)

theorem wordsFrom_comment (unbroken : '\n' ∉ cs) : wordsFrom .comment word cs = some [] := by
  induction cs generalizing word with
  | nil => rfl
  | cons c cs ih =>
      simp only [List.mem_cons, not_or] at unbroken
      have other : (c == '\n') = false := by simpa using Ne.symm unbroken.1
      rw [wordsFrom, other]
      exact ih unbroken.2

/-- Any character but a separator or the start of a comment opens a word. -/
theorem wordsFrom_gap_ne_nil {c : Char} (visible : ¬isWordSeparator c = true) (other : c ≠ '#') :
    wordsFrom .gap word (c :: cs) ≠ some [] := by
  rw [wordsFrom, if_neg visible, if_neg (by simpa using other)]
  split
  · exact wordsFrom_ne_nil (by decide)
  · split
    · exact wordsFrom_ne_nil (by decide)
    · split <;> exact wordsFrom_ne_nil (by decide)

/-- There are no words exactly if all is separators, up to a comment. -/
theorem wordsFrom_gap_eq_nil_iff (unbroken : '\n' ∉ cs) :
    wordsFrom .gap [] cs = some [] ↔ ∃ gap rest, cs = gap ++ rest ∧
      (∀ c ∈ gap, isWordSeparator c = true) ∧ ∀ c ∈ rest.head?, c = '#' := by
  induction cs with
  | nil => exact iff_of_true rfl ⟨[], [], rfl, by simp, by simp⟩
  | cons c cs ih =>
      simp only [List.mem_cons, not_or] at unbroken
      by_cases separates : isWordSeparator c = true
      · have passed : wordsFrom .gap [] (c :: cs) = wordsFrom .gap [] cs := by
          rw [wordsFrom, if_pos separates]
        rw [passed, ih unbroken.2]
        constructor
        · rintro ⟨gap, rest, rfl, blank, comment⟩
          exact ⟨c :: gap, rest, rfl, List.forall_mem_cons.2 ⟨separates, blank⟩, comment⟩
        · rintro ⟨gap, rest, eq, blank, comment⟩
          cases gap with
          | nil =>
              obtain rfl : c :: cs = rest := eq
              rw [comment c rfl] at separates
              cases separates
          | cons d gap =>
              obtain ⟨rfl, rfl⟩ := List.cons.inj eq
              exact ⟨gap, rest, rfl, (List.forall_mem_cons.1 blank).2, comment⟩
      · constructor
        · intro wordless
          have hash : c = '#' := Decidable.byContradiction fun other =>
            wordsFrom_gap_ne_nil separates other wordless
          exact ⟨[], c :: cs, rfl, by simp, by simp [hash]⟩
        · rintro ⟨gap, rest, eq, blank, comment⟩
          cases gap with
          | nil =>
              obtain rfl : c :: cs = rest := eq
              rw [wordsFrom, if_neg separates, if_pos (beq_iff_eq.2 (comment c rfl))]
              exact wordsFrom_comment unbroken.2
          | cons d gap =>
              obtain ⟨rfl, -⟩ := List.cons.inj eq
              exact absurd (blank c List.mem_cons_self) separates

theorem words_eq_nil_iff : words cs = some [] ↔ wordsFrom .gap [] cs = some [] := by
  rw [words]
  cases wordsFrom .gap [] cs <;> simp

end Text

namespace Listing

open Text

/-! ### What a line holds -/

/-- What a line of a listing holds. A blank line or a comment holds nothing: it is separators, and
what is behind them, if anything, starts a comment. Any other line holds an address and a valid
instruction, as the words in front of a comment: up to the first semicolon behind an even number of
double quotes, if there is one. -/
inductive Holds : List Char → Option (Address × Op) → Prop
  | nothing {gap rest : List Char} (blank : ∀ c ∈ gap, isWordSeparator c = true)
      (comment : ∀ c ∈ rest.head?, c = ';' ∨ c = '#') : Holds (gap ++ rest) none
  | instruction {line before : List Char} {first mnemonic : String} {arguments : List String}
      {a : Address} {op : Op} (precedes : Precedes false before line)
      (words : words before = some (first :: mnemonic :: arguments))
      (address : Address.parse? first = some a)
      (valid : Instruction (lower mnemonic) arguments op) : Holds line (some (a, op))

variable {line : List Char} {held : Option (Address × Op)}

/-- A comment is a part of the line at its end. -/
theorem exists_eq_beforeComment_append (inQuotes : Bool) (line : List Char) :
    ∃ comment, line = beforeComment inQuotes line ++ comment ∧ ∀ c ∈ comment.head?, c = ';' := by
  have precedes : Precedes inQuotes (beforeComment inQuotes line) line := precedes_iff.2 rfl
  rcases precedes.follows with all | ⟨comment, parts, -⟩
  · exact ⟨[], by rw [List.append_nil, ← all], nofun⟩
  · exact ⟨';' :: comment, parts, by simp⟩

theorem beforeComment_separators {gap rest : List Char}
    (blank : ∀ c ∈ gap, isWordSeparator c = true) :
    beforeComment false (gap ++ rest) = gap ++ beforeComment false rest := by
  refine beforeComment_append (fun mem => ?_) (.inr fun mem => ?_)
  · exact absurd (blank _ mem) (by decide)
  · exact absurd (blank _ mem) (by decide)

/-- A line is without words exactly if it is blank or a comment. -/
theorem words_beforeComment_eq_nil_iff (unbroken : '\n' ∉ line) :
    words (beforeComment false line) = some [] ↔ Holds line none := by
  obtain ⟨comment, eq, starts⟩ := exists_eq_beforeComment_append false line
  have before : '\n' ∉ beforeComment false line := fun mem =>
    unbroken (eq ▸ List.mem_append_left comment mem)
  rw [words_eq_nil_iff, wordsFrom_gap_eq_nil_iff before]
  constructor
  · rintro ⟨gap, rest, parts, blank, hash⟩
    rw [eq, parts, List.append_assoc]
    refine .nothing blank fun c head => ?_
    cases rest with
    | nil => exact .inl (starts c head)
    | cons d rest =>
        obtain rfl := Option.some.inj head
        exact .inr (hash d rfl)
  · intro holds
    cases holds with
    | @nothing gap rest blank comment =>
        rw [beforeComment_separators blank]
        refine ⟨gap, beforeComment false rest, rfl, blank, fun c head => ?_⟩
        cases rest with
        | nil => cases head
        | cons d rest =>
            rcases comment d rfl with rfl | rfl
            · cases head
            · exact (Option.some.inj head).symm

theorem readWords_eq_ok_iff {ws : List String} :
    readWords ws = .ok held ↔ ws = [] ∧ held = none ∨
      ∃ first mnemonic arguments a op, ws = first :: mnemonic :: arguments ∧
        Address.parse? first = some a ∧ Instruction (lower mnemonic) arguments op ∧
        held = some (a, op) := by
  constructor
  · intro read
    match ws with
    | [] =>
        cases read
        exact .inl ⟨rfl, rfl⟩
    | first :: rest =>
        cases address : Address.parse? first with
        | none =>
            simp only [readWords, address] at read
            cases read
        | some a =>
            cases rest with
            | nil =>
                simp only [readWords, address] at read
                cases read
            | cons mnemonic arguments =>
                simp only [readWords, address] at read
                obtain ⟨op, valid, done⟩ := Except.exists_ok_of_bind read
                cases done
                exact .inr ⟨first, mnemonic, arguments, a, op, rfl, address,
                  readOp_eq_ok_iff.1 valid, rfl⟩
  · rintro (⟨rfl, rfl⟩ | ⟨first, mnemonic, arguments, a, op, rfl, address, valid, rfl⟩)
    · rfl
    · simp only [readWords, address]
      exact Except.bind_of_ok (readOp_eq_ok_iff.2 valid) rfl

/-- An instruction that is read from a line is the one that it holds. -/
theorem readLine_eq_ok_some_iff {e : Address × Op} :
    readLine line = .ok (some e) ↔ Holds line (some e) := by
  constructor
  · intro read
    rw [readLine] at read
    cases ws : words (beforeComment false line) with
    | none =>
        rw [ws] at read
        cases read
    | some ws' =>
        rw [ws] at read
        rcases readWords_eq_ok_iff.1 read with
          ⟨-, blank⟩ | ⟨first, mnemonic, arguments, a, op, rfl, address, valid, eq⟩
        · cases blank
        · cases eq
          exact .instruction (precedes_iff.2 rfl) ws address valid
  · intro holds
    cases holds with
    | instruction precedes ws address valid =>
        rw [readLine, ← precedes_iff.1 precedes, ws]
        exact readWords_eq_ok_iff.2 (.inr ⟨_, _, _, _, _, rfl, address, valid, rfl⟩)

/-- What is read from a line is what it holds. -/
theorem readLine_eq_ok_iff (unbroken : '\n' ∉ line) :
    readLine line = .ok held ↔ Holds line held := by
  cases held with
  | some e => exact readLine_eq_ok_some_iff
  | none =>
      rw [← words_beforeComment_eq_nil_iff unbroken, readLine]
      cases words (beforeComment false line) with
      | none => simp
      | some ws => simp [readWords_eq_ok_iff]

/-- Whether a line holds an instruction is seen by reading it. -/
instance (line : List Char) : Decidable (∃ e, Holds line (some e)) :=
  match read : readLine line with
  | .ok (some e) => isTrue ⟨e, readLine_eq_ok_some_iff.1 read⟩
  | .ok none => isFalse fun ⟨_, holds⟩ => by
      cases (readLine_eq_ok_some_iff.2 holds).symm.trans read
  | .error _ => isFalse fun ⟨_, holds⟩ => by
      cases (readLine_eq_ok_some_iff.2 holds).symm.trans read

theorem Holds.unique {held' : Option (Address × Op)} (unbroken : '\n' ∉ line)
    (holds : Holds line held) (holds' : Holds line held') : held = held' :=
  Except.ok.inj (((readLine_eq_ok_iff unbroken).2 holds).symm.trans
    ((readLine_eq_ok_iff unbroken).2 holds'))

end Listing

end GuestDebugger
