import GuestDebugger.Prompt.Command
import GuestDebugger.Proofs.Address.Grammar
import GuestDebugger.Proofs.Listing.Comments
import GuestDebugger.Proofs.Listing.RoundTrip
import Mathlib.Data.List.Forall2

/-! # Typing commands

Whatever a command is to say can be typed. A number is typed in decimal digits, and an address with
`0x` before hexadecimal ones, of which none means anything to the reader of words. A label stands in
single quotes, which keep all but themselves, so blanks, backslashes and marks of comments may be in
it; but a name that reads as an address would be taken for one. -/

namespace GuestDebugger

namespace Text

/-! ### Typed words -/

/-- What is typed is read as a word, whatever follows. -/
def ReadsAs (typed word : String) : Prop :=
  ∀ before rest, wordsFrom .gap before (typed.toList ++ rest) =
    wordsFrom .bare word.toList.reverse rest

theorem Spelling.Readable.readsAs {text : String} (readable : (bare text).Readable) :
    ReadsAs text text := fun _ _ => wordsFrom_chars readable

theorem readsAs_enclose {text : String} (fits : '\x27' ∉ text.toList) :
    ReadsAs (Quotes.single.enclose text) text := by
  intro before rest
  let inner := text.toList.flatMap Quotes.single.written
  have opened : wordsFrom .gap before ('\x27' :: (inner ++ '\x27' :: rest)) =
      wordsFrom Quotes.single.mode [] (inner ++ '\x27' :: rest) := rfl
  have closed : wordsFrom Quotes.single.mode text.toList.reverse ('\x27' :: rest) =
      wordsFrom .bare text.toList.reverse rest := rfl
  have typed : (Quotes.single.enclose text).toList ++ rest =
      '\x27' :: (inner ++ '\x27' :: rest) := by
    simp [Quotes.enclose, Quotes.mark, inner]
  rw [typed, opened, Quotes.wordsFrom_flatMap_written fun _ => fits, List.append_nil, closed]

/-- Words that are parted by spaces are read one by one. -/
theorem words_intercalate {typed words : List String} (reads : List.Forall₂ ReadsAs typed words) :
    Text.words (" ".intercalate typed).toList = some words := by
  have read : wordsFrom .gap [] (" ".intercalate typed).toList =
      some (words.map String.toList) := by
    rw [String.toList_intercalate]
    induction reads with
    | nil => rfl
    | @cons first word typed words head tail ih =>
        cases tail with
        | nil =>
            have alone := head [] []
            rw [List.append_nil] at alone
            simpa [wordsFrom] using alone
        | cons second later =>
            have space : ∀ rest, wordsFrom .bare word.toList.reverse (" ".toList ++ rest) =
                (wordsFrom .gap [] rest).map (word.toList.reverse.reverse :: ·) := fun _ => rfl
            rw [List.map_cons] at ih
            rw [List.map_cons, List.map_cons, List.intercalate_cons_cons, List.append_assoc, head,
              space, ih, List.reverse_reverse]
            rfl
  rw [Text.words, read, Option.map_some, List.map_map]
  simp [Function.comp_def]

theorem StandsFor.isPlain {c : Char} {d : Nat} (stands : StandsFor c d) : isPlain c = true := by
  have all : ∀ d < 16,
      Text.isPlain (Nat.digitChar d) = true ∧ Text.isPlain (Nat.digitChar d).toUpper = true := by
    decide
  obtain ⟨small, rfl | rfl⟩ := stands
  · exact (all d small).1
  · exact (all d small).2

/-! ### Names in any case -/

theorem isAlpha_of_isLower_toLower {c : Char} (lower : c.toLower.isLower = true) :
    c.isAlpha = true := by
  unfold Char.toLower at lower
  split at lower
  · rename_i upper
    exact Bool.or_eq_true_iff.2 (.inl (decide_eq_true upper))
  · exact Bool.or_eq_true_iff.2 (.inr lower)

theorem lt_of_isAlpha {c : Char} (alpha : c.isAlpha = true) : c.toNat < 128 := by
  rcases Bool.or_eq_true_iff.1 alpha with upper | lower
  · have below := UInt32.le_iff_toNat_le.1 (of_decide_eq_true upper).2
    exact Nat.lt_of_le_of_lt below (by decide)
  · exact lt_of_isSmall (Bool.or_eq_true_iff.2 (.inl lower))

/-- A name of small letters, typed in whatever case. -/
structure Spells (typed name : String) : Prop where
  same : typed.toLower = name
  filled : name ≠ ""
  letters : ∀ c ∈ name.toList, c.isLower = true

theorem Spells.isAlpha {typed name : String} (spells : Spells typed name) :
    ∀ c ∈ typed.toList, c.isAlpha = true := by
  intro c mem
  refine isAlpha_of_isLower_toLower (spells.letters _ ?_)
  rw [← spells.same, toList_toLower]
  exact List.mem_map_of_mem mem

theorem Spells.lower {typed name : String} (spells : Spells typed name) :
    Text.lower typed = name := by
  rw [lower_of_ascii fun c mem => lt_of_isAlpha (spells.isAlpha c mem), spells.same]

theorem Spells.readsAs {typed name : String} (spells : Spells typed name) :
    ReadsAs typed typed := by
  have readable : (Spelling.bare typed).Readable := by
    constructor
    · rintro rfl
      refine spells.filled ?_
      rw [← spells.same, ← String.toList_eq_nil_iff, toList_toLower]
      rfl
    · intro c mem
      have alpha := spells.isAlpha c mem
      have alphanum : c.isAlphanum = (c.isAlpha || c.isDigit) := rfl
      simp [isPlain, alphanum, alpha]
  exact readable.readsAs

end Text

/-! ### Targets and counts -/

open Text

/-- How a target is typed: an address with `0x` before its digits of either case, be they eight or
not, and a label in single quotes, if it has none itself and does not read as an address. -/
inductive Target.Typed : Target → String → Prop
  | address {a : Address} {digits : List Char} (number : HexNumber digits a.toNat) :
      Typed (.address a) (String.ofList ('0' :: 'x' :: digits))
  | label {name : String} (fits : '\x27' ∉ name.toList) (other : Address.parse? name = none) :
      Typed (.label name) (Quotes.single.enclose name)

/-- A typed target is read as a word that is read as the target. -/
theorem Target.Typed.exists_word {t : Target} {typed : String} (target : t.Typed typed) :
    ∃ word, ReadsAs typed word ∧ parse word = t := by
  cases target with
  | @address a digits number =>
      have written : Address.Written ('0' :: 'x' :: digits) a.toNat :=
        ⟨['0', 'x'], by simp, digits, rfl, [], by simp, digits, rfl, number⟩
      have readable : (Spelling.bare (String.ofList ('0' :: 'x' :: digits))).Readable := by
        refine ⟨by simp [← String.toList_inj], ?_⟩
        intro c mem
        rw [String.toList_ofList, List.mem_cons, List.mem_cons] at mem
        rcases mem with rfl | rfl | digit
        · rfl
        · rfl
        · obtain ⟨d, stands⟩ := number.exists_standsFor digit
          exact stands.isPlain
      rw [← String.toList_ofList (l := '0' :: 'x' :: digits), ← Address.parse?_eq_some_iff]
        at written
      exact ⟨_, readable.readsAs, by rw [parse, written]⟩
  | label fits other => exact ⟨_, readsAs_enclose fits, by rw [parse, other]⟩

theorem readsAs_toString (n : Nat) : ReadsAs (toString n) (toString n) :=
  (Spelling.readable_toString n).readsAs

namespace Command

theorem readCount_toString (default n : UInt32) :
    readCount default (some (toString n.toNat)) = .ok n := by
  rw [readCount, readUInt32_toString]

/-! ### Flags -/

/-- Words that name the properties of a breakpoint, in any order and any number of times. -/
structure Names (words : List String) (flags : BreakpointFlags) : Prop where
  known : ∀ word ∈ words, word = "temp" ∨ word = "once"
  temporary : flags.temporary = true ↔ "temp" ∈ words
  oneShot : flags.oneShot = true ↔ "once" ∈ words

theorem readFlags_of_known {words : List String} (flags : BreakpointFlags)
    (known : ∀ word ∈ words, word = "temp" ∨ word = "once") :
    readFlags flags words = .ok
      { temporary := flags.temporary || decide ("temp" ∈ words)
        oneShot := flags.oneShot || decide ("once" ∈ words) } := by
  induction words generalizing flags with
  | nil => simp [readFlags]
  | cons word words ih =>
      have rest := fun flags => ih flags fun word mem => known word (List.mem_cons_of_mem _ mem)
      rcases known word List.mem_cons_self with rfl | rfl
      · simp [readFlags, rest]
      · simp [readFlags, rest]

theorem Names.readFlags {words : List String} {flags : BreakpointFlags}
    (names : Names words flags) : readFlags {} words = .ok flags := by
  have temporary : decide ("temp" ∈ words) = flags.temporary :=
    Bool.eq_iff_iff.2 (decide_eq_true_iff.trans names.temporary.symm)
  have oneShot : decide ("once" ∈ words) = flags.oneShot :=
    Bool.eq_iff_iff.2 (decide_eq_true_iff.trans names.oneShot.symm)
  rw [readFlags_of_known {} names.known, temporary, oneShot, Bool.false_or, Bool.false_or]

theorem Names.readsAs {words : List String} {flags : BreakpointFlags} (names : Names words flags) :
    List.Forall₂ ReadsAs words words := by
  rw [List.forall₂_same]
  intro word mem
  rcases names.known word mem with rfl | rfl
  · exact (Spelling.readable_of_isSmall (by decide) (List.all_eq_true.1 rfl)).readsAs
  · exact (Spelling.readable_of_isSmall (by decide) (List.all_eq_true.1 rfl)).readsAs

/-! ### Commands -/

/-- What can be typed: the names of a command in small letters, its arguments as they are typed, and
the command that is meant. -/
inductive Typed : List String → List String → Command → Prop
  | step (n : UInt32) : Typed ["s", "step"] [toString n.toNat] (.step n)
  | runTo {t : Target} {first : String} (target : t.Typed first) :
      Typed ["r", "runto"] [first] (.runTo t)
  | setBreakpoint {t : Target} {first : String} {words : List String} {flags : BreakpointFlags}
      (target : t.Typed first) (names : Names words flags) :
      Typed ["b", "break"] (first :: words) (.setBreakpoint t flags)
  | delete {t : Target} {first : String} (target : t.Typed first) :
      Typed ["d", "delete"] [first] (.delete t)
  | toggle {t : Target} {first : String} (target : t.Typed first) :
      Typed ["t", "toggle"] [first] (.toggle t)
  | memory {t : Target} {first : String} (target : t.Typed first) (n : UInt32) :
      Typed ["x"] [first, toString n.toNat] (.memory t n)
  | disassemble {t : Target} {first : String} (target : t.Typed first) (n : UInt32) :
      Typed ["dis"] [first, toString n.toNat] (.disassemble (some t) n)

/-- The arguments are read as words that are those of the command, under each of its names. -/
theorem Typed.exists_words {names arguments : List String} {command : Command}
    (typed : Typed names arguments command) :
    ∃ words, List.Forall₂ ReadsAs arguments words ∧
      ∀ name ∈ names, ofWords name words = .ok command := by
  cases typed with
  | step n =>
      have count := readCount_toString 1 n
      refine ⟨_, .cons (readsAs_toString n.toNat) .nil, ?_⟩
      generalize toString n.toNat = word at count
      simp [ofWords, count, bind, Except.bind, pure, Except.pure]
  | runTo target | delete target | toggle target =>
      obtain ⟨word, reads, found⟩ := target.exists_word
      refine ⟨_, .cons reads .nil, ?_⟩
      simp [ofWords, readTarget, found, bind, Except.bind, pure, Except.pure]
  | setBreakpoint target names =>
      obtain ⟨word, reads, found⟩ := target.exists_word
      refine ⟨_, .cons reads names.readsAs, ?_⟩
      simp [ofWords, readTarget, found, names.readFlags, bind, Except.bind, pure, Except.pure]
  | memory target n =>
      obtain ⟨word, reads, found⟩ := target.exists_word
      have count := readCount_toString 16 n
      refine ⟨_, .cons reads (.cons (readsAs_toString n.toNat) .nil), ?_⟩
      generalize toString n.toNat = second at count
      simp [ofWords, readTarget, found, count, bind, Except.bind, pure, Except.pure]
  | disassemble target n =>
      obtain ⟨word, reads, found⟩ := target.exists_word
      have count := readCount_toString 8 n
      refine ⟨_, .cons reads (.cons (readsAs_toString n.toNat) .nil), ?_⟩
      generalize toString n.toNat = second at count
      simp [ofWords, found, count, bind, Except.bind, pure, Except.pure]

theorem Typed.letters {names arguments : List String} {command : Command} {name : String}
    (typed : Typed names arguments command) (named : name ∈ names) :
    name ≠ "" ∧ ∀ c ∈ name.toList, c.isLower = true := by
  have all : (names.all fun name => name ≠ "" && name.toList.all Char.isLower) = true := by
    cases typed <;> rfl
  have this := List.all_eq_true.1 all name named
  rw [Bool.and_eq_true_iff, decide_eq_true_iff, List.all_eq_true] at this
  exact this

/-- Every target, every count and every combination of flags can be typed: a line of the name of a
command, short or long and in any case, and of its arguments is read as the command that is
meant. -/
theorem parse_of_typed {names arguments : List String} {command : Command} {name : String}
    (typed : Typed names arguments command) (named : name.toLower ∈ names) :
    Command.parse (" ".intercalate (name :: arguments)) = .ok command := by
  obtain ⟨words, reads, means⟩ := typed.exists_words
  obtain ⟨filled, letters⟩ := typed.letters named
  have spells : Spells name name.toLower := ⟨rfl, filled, letters⟩
  rw [Command.parse, words_intercalate (.cons spells.readsAs reads)]
  dsimp only
  rw [spells.lower]
  exact means _ named

/-- A label of all that means something outside quotes, and flags in the wrong order and twice. -/
theorem parse_of_typed_oddly :
    let label := Quotes.single.enclose "a #1 \"b\" \\"
    let words := ["once", "temp", "once"]
    let command : Command :=
      .setBreakpoint (.label "a #1 \"b\" \\") { temporary := true, oneShot := true }
    (Typed ["b", "break"] (label :: words) command ∧ "bREAk".toLower ∈ ["b", "break"]) ∧
      " ".intercalate ("bREAk" :: label :: words) = "bREAk 'a #1 \"b\" \\' once temp once" ∧
      Command.parse (" ".intercalate ("bREAk" :: label :: words)) = .ok command := by
  intro label words command
  have names : Names words { temporary := true, oneShot := true } :=
    ⟨by decide, by decide, by decide⟩
  have typed : Typed ["b", "break"] (label :: words) command :=
    .setBreakpoint (.label (by decide) (by decide)) names
  have small : "bREAk".toLower = "break" := by
    rw [← String.toList_inj, toList_toLower]
    rfl
  have named : "bREAk".toLower ∈ ["b", "break"] := by
    rw [small]
    decide
  exact ⟨⟨typed, named⟩, by decide, parse_of_typed typed named⟩

end Command

end GuestDebugger
