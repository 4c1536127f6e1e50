import GuestDebugger.AddressMap.Lemmas
import GuestDebugger.Proofs.Listing.Lines
import GuestDebugger.Text.Lemmas

/-! # Accepted listings

A text is a listing exactly if each of its lines is blank, or a comment, or an address and a valid
instruction, some line has an instruction, and no two lines have one at the same address. The
listing has those instructions and no others. Otherwise the first line that offends against this
decides the error, and a text without instructions is refused as empty only if no line offends. -/

namespace GuestDebugger.Listing

open Text

variable {line : List Char}

/-! ### Offending lines -/

/-- A line offends behind earlier ones: it holds nothing that a line may hold, or it repeats the
address of an earlier line. -/
inductive Offends (earlier : List (List Char)) (line : List Char) : Prop
  | malformed (nothing : ∀ held, ¬Holds line held)
  | repeated {a : Address} {op : Op} (holds : Holds line (some (a, op)))
      (taken : ∃ line' ∈ earlier, ∃ op', Holds line' (some (a, op')))

/-- No line offends. -/
def Faultless (ls : List (List Char)) : Prop :=
  ∀ earlier line later, ls = earlier ++ line :: later → ¬Offends earlier line

/-- How an offence is told. Lines are counted from one, and what is wrong with a malformed line is
what is met first when it is read. -/
inductive Blames (earlier : List (List Char)) (line : List Char) : ListingError → Prop
  | malformed {problem : LineProblem} (nothing : ∀ held, ¬Holds line held)
      (met : readLine line = .error problem) :
      Blames earlier line (.badLine (earlier.length + 1) problem)
  | repeated {a : Address} {op : Op} (holds : Holds line (some (a, op)))
      (taken : ∃ line' ∈ earlier, ∃ op', Holds line' (some (a, op'))) :
      Blames earlier line (.duplicate (earlier.length + 1) a)

/-- Why lines are refused: the first that offends decides, and if none does, that no line holds an
instruction. -/
inductive Refused (ls : List (List Char)) : ListingError → Prop
  | offence {earlier later : List (List Char)} {line : List Char} {e : ListingError}
      (parts : ls = earlier ++ line :: later) (first : Faultless earlier)
      (blames : Blames earlier line e) : Refused ls e
  | empty (faultless : Faultless ls) (nothing : ∀ line ∈ ls, ∀ e, ¬Holds line (some e)) :
      Refused ls .empty

/-- What is asked of the lines of a listing. -/
structure WellFormed (ls : List (List Char)) : Prop where
  /-- Each line is blank, or a comment, or an address and a valid instruction. -/
  lines : ∀ line ∈ ls, ∃ held, Holds line held
  /-- There is an instruction. -/
  filled : ∃ line ∈ ls, ∃ e, Holds line (some e)
  /-- No two lines hold instructions at one address. -/
  apart : ls.Pairwise fun line line' => ∀ a op op',
    Holds line (some (a, op)) → ¬Holds line' (some (a, op'))

/-- The number of lines that hold an instruction. -/
def instructionLines (ls : List (List Char)) : Nat :=
  ls.countP fun line => ∃ e, Holds line (some e)

/-- A program has the instructions of the lines, all of them and no others. -/
structure Tells (ls : List (List Char)) (l : Listing) : Prop where
  /-- The instruction at an address is the one that a line holds. -/
  get?_iff (a : Address) (op : Op) : l.get? a = some op ↔ ∃ line ∈ ls, Holds line (some (a, op))
  /-- There are as many instructions as lines that hold one. -/
  size_eq : l.size = instructionLines ls

variable {ls earlier rest : List (List Char)} {e e' : ListingError}

theorem faultless_nil : Faultless [] := by
  intro earlier line later parts
  simp at parts

theorem faultless_append_iff :
    Faultless (ls ++ [line]) ↔ Faultless ls ∧ ¬Offends ls line := by
  constructor
  · intro faultless
    refine ⟨fun earlier line' later parts => ?_, faultless ls line [] rfl⟩
    exact faultless earlier line' (later ++ [line]) (by simp [parts])
  · rintro ⟨faultless, last⟩ earlier line' later parts
    rcases List.eq_nil_or_concat' later with rfl | ⟨later, end', rfl⟩
    · obtain ⟨rfl, same⟩ := List.append_inj' parts rfl
      obtain rfl := (List.cons.inj same).1
      exact last
    · rw [← List.cons_append, ← List.append_assoc] at parts
      obtain ⟨rfl, -⟩ := List.append_inj' parts rfl
      exact faultless earlier line' later rfl

/-- A line does not offend if it holds something and repeats no address. -/
theorem not_offends_iff :
    ¬Offends earlier line ↔ (∃ held, Holds line held) ∧
      ∀ line' ∈ earlier, ∀ a op op', Holds line' (some (a, op)) → ¬Holds line (some (a, op')) := by
  constructor
  · intro good
    constructor
    · by_contra nothing
      exact good (.malformed (not_exists.1 nothing))
    · intro line' mem a op op' holds' holds
      exact good (.repeated holds ⟨line', mem, op, holds'⟩)
  · rintro ⟨⟨held, holds⟩, apart⟩ offends
    cases offends with
    | malformed nothing => exact nothing held holds
    | repeated holds taken =>
        obtain ⟨line', mem, op', holds'⟩ := taken
        exact apart line' mem _ op' _ holds' holds

/-- That no line offends is said of each line and of each two lines. -/
theorem faultless_iff :
    Faultless ls ↔ (∀ line ∈ ls, ∃ held, Holds line held) ∧
      ls.Pairwise fun line line' => ∀ a op op',
        Holds line (some (a, op)) → ¬Holds line' (some (a, op')) := by
  induction ls using List.reverseRecOn with
  | nil => exact iff_of_true faultless_nil ⟨nofun, .nil⟩
  | append_singleton ls line ih =>
      rw [faultless_append_iff, ih, not_offends_iff, List.pairwise_append,
        List.forall_mem_append, List.forall_mem_singleton]
      simp only [List.pairwise_singleton, List.mem_singleton, forall_eq, true_and]
      exact and_and_and_comm

theorem Blames.offends (blames : Blames earlier line e) : Offends earlier line := by
  cases blames with
  | malformed nothing => exact .malformed nothing
  | repeated holds taken => exact .repeated holds taken

theorem Blames.unique (unbroken : '\n' ∉ line) (blames : Blames earlier line e)
    (blames' : Blames earlier line e') : e = e' := by
  cases blames with
  | malformed nothing met =>
      cases blames' with
      | malformed _ met' => rw [Except.error.inj (met.symm.trans met')]
      | repeated holds => exact absurd holds (nothing _)
  | repeated holds =>
      cases blames' with
      | malformed nothing => exact absurd holds (nothing _)
      | repeated holds' =>
          cases holds.unique unbroken holds'
          rfl

/-! ### Reading line by line -/

variable {ops : AddressMap Op}

theorem tells_nil : Tells [] ⟨∅⟩ where
  get?_iff _ _ := iff_of_false nofun nofun
  size_eq := rfl

theorem Tells.eq {l l' : Listing} (tells : Tells ls l) (tells' : Tells ls l') : l = l' := by
  refine Listing.ext (AddressMap.eq_of_get?_eq fun a => Option.ext fun op => ?_)
  exact (tells.get?_iff a op).trans (tells'.get?_iff a op).symm

theorem Tells.mem_iff (tells : Tells ls ⟨ops⟩) (a : Address) :
    a ∈ ops ↔ ∃ line ∈ ls, ∃ op, Holds line (some (a, op)) := by
  rw [AddressMap.mem_iff_isSome, Option.isSome_iff_exists]
  constructor
  · rintro ⟨op, found⟩
    obtain ⟨line, mem, holds⟩ := (tells.get?_iff a op).1 found
    exact ⟨line, mem, op, holds⟩
  · rintro ⟨line, mem, op, holds⟩
    exact ⟨op, (tells.get?_iff a op).2 ⟨line, mem, holds⟩⟩

theorem Tells.isEmpty_iff (tells : Tells ls ⟨ops⟩) :
    ops.isEmpty = true ↔ ∀ line ∈ ls, ∀ e, ¬Holds line (some e) := by
  constructor
  · intro empty line mem e holds
    have found := (tells.get?_iff e.1 e.2).2 ⟨line, mem, holds⟩
    rw [get?, AddressMap.get?_eq_some_iff, List.isEmpty_iff.1 empty] at found
    cases found
  · intro blank
    refine List.isEmpty_iff.2 (List.eq_nil_iff_forall_not_mem.2 fun e mem => ?_)
    obtain ⟨line, there, holds⟩ := (tells.get?_iff e.1 e.2).1 (AddressMap.get?_eq_some_iff.2 mem)
    exact blank line there e holds

/-- A line without an instruction adds nothing. -/
theorem Tells.append_nothing (tells : Tells ls ⟨ops⟩) (unbroken : '\n' ∉ line)
    (holds : Holds line none) : Tells (ls ++ [line]) ⟨ops⟩ := by
  have blank : ∀ e, ¬Holds line (some e) := fun e other => nomatch holds.unique unbroken other
  constructor
  · intro a op
    rw [tells.get?_iff]
    simp [or_and_right, exists_or, blank]
  · rw [tells.size_eq, instructionLines, instructionLines, List.countP_append]
    simp [blank]

/-- A line with an instruction at a new address adds the instruction. -/
theorem Tells.append_instruction {a : Address} {op : Op} (tells : Tells ls ⟨ops⟩)
    (unbroken : '\n' ∉ line) (holds : Holds line (some (a, op))) (new : a ∉ ops) :
    Tells (ls ++ [line]) ⟨ops.insert a op⟩ := by
  have only : ∀ e, Holds line (some e) ↔ e = (a, op) := by
    intro e
    constructor
    · exact fun other => Option.some.inj (other.unique unbroken holds)
    · rintro rfl
      exact holds
  constructor
  · intro b op'
    simp only [get?, AddressMap.get?_insert, List.mem_append, List.mem_singleton, or_and_right,
      exists_or, exists_eq_left, only, Prod.mk.injEq]
    by_cases here : b = a
    · subst here
      have absent : ¬∃ line' ∈ ls, Holds line' (some (b, op')) := by
        rintro ⟨line', mem, holds'⟩
        exact new ((tells.mem_iff b).2 ⟨line', mem, op', holds'⟩)
      simp [absent, eq_comm]
    · rw [if_neg here, ← tells.get?_iff b op']
      simp [here, get?]
  · have counted : (∃ e, Holds line (some e)) := ⟨_, holds⟩
    have size := tells.size_eq
    rw [Listing.size] at size ⊢
    rw [AddressMap.size_insert_of_notMem new, size, instructionLines, instructionLines,
      List.countP_append]
    simp [counted]

/-- What becomes of lines: a program if they are accepted, an error if they are refused. -/
def Verdict (ls : List (List Char)) : Except ListingError Listing → Prop
  | .ok l => Faultless ls ∧ (∃ line ∈ ls, ∃ e, Holds line (some e)) ∧ Tells ls l
  | .error e => Refused ls e

/-- Lines that offend in no way are read on. The induction is on the lines that are left. -/
theorem verdict_readLines (unbroken : ∀ line ∈ rest, '\n' ∉ line) (faultless : Faultless earlier)
    (tells : Tells earlier ⟨ops⟩) :
    Verdict (earlier ++ rest) (readLines (earlier.length + 1) ops rest) := by
  induction rest generalizing earlier ops with
  | nil =>
      rw [List.append_nil, readLines]
      by_cases empty : ops.isEmpty = true
      · rw [if_pos empty]
        exact .empty faultless (tells.isEmpty_iff.1 empty)
      · rw [if_neg empty]
        refine ⟨faultless, ?_, tells⟩
        rw [tells.isEmpty_iff] at empty
        simpa using empty
  | cons line rest ih =>
      have here : '\n' ∉ line := unbroken line List.mem_cons_self
      have later : ∀ line ∈ rest, '\n' ∉ line := fun line' mem =>
        unbroken line' (List.mem_cons_of_mem _ mem)
      have goOn : ∀ {ops' : AddressMap Op}, ¬Offends earlier line →
          Tells (earlier ++ [line]) ⟨ops'⟩ →
          Verdict (earlier ++ line :: rest) (readLines (earlier.length + 1 + 1) ops' rest) := by
        intro ops' good tells
        have next := ih later (faultless_append_iff.2 ⟨faultless, good⟩) tells
        rwa [List.append_assoc, List.length_append] at next
      cases read : readLine line with
      | error problem =>
          simp only [readLines, read]
          refine .offence rfl faultless (.malformed (fun held holds => ?_) read)
          rw [(readLine_eq_ok_iff here).2 holds] at read
          cases read
      | ok held =>
          have holds := (readLine_eq_ok_iff here).1 read
          cases held with
          | none =>
              simp only [readLines, read]
              refine goOn (not_offends_iff.2 ⟨⟨none, holds⟩, ?_⟩)
                (tells.append_nothing here holds)
              intro _ _ _ _ _ _ other
              cases holds.unique here other
          | some e =>
              obtain ⟨a, op⟩ := e
              simp only [readLines, read]
              by_cases taken : a ∈ ops
              · rw [if_pos taken]
                exact .offence rfl faultless (.repeated holds ((tells.mem_iff a).1 taken))
              · rw [if_neg taken]
                refine goOn (not_offends_iff.2 ⟨⟨some (a, op), holds⟩, ?_⟩)
                  (tells.append_instruction here holds taken)
                intro line' mem b op₁ op₂ holds' holds''
                cases holds.unique here holds''
                exact taken ((tells.mem_iff a).2 ⟨line', mem, op₁, holds'⟩)

/-! ### The verdict on a text -/

theorem Refused.not_accepted (refused : Refused ls e) :
    ¬(Faultless ls ∧ ∃ line ∈ ls, ∃ e, Holds line (some e)) := by
  rintro ⟨faultless, line, mem, x, holds⟩
  cases refused with
  | offence parts _ blames => exact faultless _ _ _ parts blames.offends
  | empty _ nothing => exact nothing line mem x holds

/-- No line before another that may be the first to offend offends itself. -/
theorem length_le_of_faultless {earlier' later' : List (List Char)}
    (parts : earlier ++ line :: rest = earlier' ++ later') (first : Faultless earlier')
    (offends : Offends earlier line) : earlier'.length ≤ earlier.length := by
  by_contra longer
  have upToLine : earlier ++ [line] <+: earlier' ++ later' := ⟨rest, by simp [← parts]⟩
  have upToOther : earlier' <+: earlier' ++ later' := List.prefix_append earlier' later'
  obtain ⟨between, eq⟩ := List.prefix_of_prefix_length_le upToLine upToOther (by simp; omega)
  exact first earlier line between (by simp [← eq]) offends

/-- Only one error is told: there is one first line that offends, and it offends in one way. -/
theorem Refused.unique (unbroken : ∀ line ∈ ls, '\n' ∉ line) (refused : Refused ls e)
    (refused' : Refused ls e') : e = e' := by
  cases refused with
  | empty faultless =>
      cases refused' with
      | offence parts _ blames => exact absurd blames.offends (faultless _ _ _ parts)
      | empty => rfl
  | @offence earlier later line _ parts first blames =>
      cases refused' with
      | empty faultless => exact absurd blames.offends (faultless _ _ _ parts)
      | @offence earlier' later' line' _ parts' first' blames' =>
          have same := parts.symm.trans parts'
          have lengths := Nat.le_antisymm
            (length_le_of_faultless same.symm first blames'.offends)
            (length_le_of_faultless same first' blames.offends)
          obtain ⟨rfl, eq⟩ := List.append_inj same lengths
          obtain ⟨rfl, -⟩ := List.cons.inj eq
          exact blames.unique (unbroken line (by simp [parts])) blames'

theorem Verdict.unique {r r' : Except ListingError Listing} (unbroken : ∀ line ∈ ls, '\n' ∉ line)
    (verdict : Verdict ls r) (verdict' : Verdict ls r') : r = r' := by
  cases r with
  | ok l =>
      obtain ⟨faultless, filled, tells⟩ := verdict
      cases r' with
      | ok l' => exact congrArg Except.ok (tells.eq verdict'.2.2)
      | error e => exact absurd ⟨faultless, filled⟩ (Refused.not_accepted verdict')
  | error e =>
      cases r' with
      | ok l' => exact absurd ⟨verdict'.1, verdict'.2.1⟩ (Refused.not_accepted verdict)
      | error e' => exact congrArg Except.error (Refused.unique unbroken verdict verdict')

theorem parse_eq_iff {text : String} {r : Except ListingError Listing} :
    parse text = r ↔ Verdict (Text.lines text.toList) r := by
  have unbroken : ∀ line ∈ Text.lines text.toList, '\n' ∉ line := fun _ mem =>
    lineFeed_notMem_of_mem_lines mem
  have verdict : Verdict (Text.lines text.toList) (parse text) :=
    verdict_readLines unbroken faultless_nil tells_nil
  constructor
  · rintro rfl
    exact verdict
  · exact verdict.unique unbroken

theorem wellFormed_iff :
    WellFormed ls ↔ Faultless ls ∧ ∃ line ∈ ls, ∃ e, Holds line (some e) := by
  rw [faultless_iff]
  constructor
  · rintro ⟨lines, filled, apart⟩
    exact ⟨⟨lines, apart⟩, filled⟩
  · rintro ⟨⟨lines, apart⟩, filled⟩
    exact ⟨lines, filled, apart⟩

/-- A text is read as a listing exactly if its lines are well formed, and the listing is then told
by the lines. All other texts are refused for the first line that offends, or as empty. -/
theorem parse_accepts_wellFormed (text : String) :
    ((∃ l, parse text = .ok l) ↔ WellFormed (Text.lines text.toList)) ∧
      (∀ l, parse text = .ok l ↔
        WellFormed (Text.lines text.toList) ∧ Tells (Text.lines text.toList) l) ∧
      ∀ e, parse text = .error e ↔ Refused (Text.lines text.toList) e := by
  have accepted : ∀ l, parse text = .ok l ↔
      WellFormed (Text.lines text.toList) ∧ Tells (Text.lines text.toList) l := by
    intro l
    rw [parse_eq_iff, wellFormed_iff, and_assoc]
    rfl
  refine ⟨⟨fun ⟨l, read⟩ => ((accepted l).1 read).1, fun wellFormed => ?_⟩, accepted, fun e => ?_⟩
  · cases read : parse text with
    | ok l => exact ⟨l, rfl⟩
    | error e =>
        exact absurd (wellFormed_iff.1 wellFormed) (Refused.not_accepted (parse_eq_iff.1 read))
  · exact parse_eq_iff

/-- Lines are counted whether or not they hold an instruction, and a line may be ended by a carriage
return and a line feed. A malformed line is told before a repeated address that comes later. -/
example :
    parse "; note\r\n\r\n10 nop\r\n 0x10 flip ; again\n11 hlt\n" = .error (.duplicate 4 0x10) ∧
      parse "10 nop\n11 hlt\n10 nop\n" = .error (.badLine 2 (.unknownInstruction "hlt")) :=
  ⟨rfl, rfl⟩

end GuestDebugger.Listing
