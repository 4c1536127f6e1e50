import GuestDebugger.Labels.Lemmas
import GuestDebugger.Text.Lemmas
import Mathlib.Data.List.ReduceOption

/-! # Label files

A text is a label file if each of its lines is blank or names an address. Its labels are then put in
the order of the lines, and nothing else is. -/

namespace GuestDebugger.Labels

open Text

/-! ### Lines -/

theorem isEmpty_trim_iff {cs : List Char} :
    (trim cs).isEmpty = true ↔ ∀ c ∈ cs, isBlank c = true := by
  rw [List.isEmpty_iff, trim_eq_nil_iff, trimEnd_eq_nil_iff]

theorem splitAtTab?_append {before : List Char} (first : '\t' ∉ before) (after : List Char) :
    splitAtTab? (before ++ '\t' :: after) = some (before, after) := by
  induction before with
  | nil => rfl
  | cons c rest ih =>
      simp only [List.mem_cons, not_or] at first
      simp [splitAtTab?, Ne.symm first.1, ih first.2]

theorem eq_append_of_splitAtTab? {line before after : List Char}
    (split : splitAtTab? line = some (before, after)) :
    line = before ++ '\t' :: after ∧ '\t' ∉ before := by
  induction line generalizing before with
  | nil => cases split
  | cons c rest ih =>
      rw [splitAtTab?] at split
      by_cases tab : c = '\t'
      · simp only [tab, beq_self_eq_true, if_true, Option.some.injEq, Prod.mk.injEq] at split
        obtain ⟨rfl, rfl⟩ := split
        exact ⟨by rw [tab]; rfl, List.not_mem_nil⟩
      · simp only [beq_eq_false_iff_ne.2 tab, Bool.false_eq_true, if_false,
          Option.map_eq_some_iff] at split
        obtain ⟨⟨before, after⟩, later, eq⟩ := split
        cases eq
        obtain ⟨rfl, first⟩ := ih later
        exact ⟨rfl, by simp [first, Ne.symm tab]⟩

/-- The first tab parts a line. -/
theorem splitAtTab?_eq_some_iff {line before after : List Char} :
    splitAtTab? line = some (before, after) ↔ line = before ++ '\t' :: after ∧ '\t' ∉ before := by
  constructor
  · exact eq_append_of_splitAtTab?
  · rintro ⟨rfl, first⟩
    exact splitAtTab?_append first after

/-- What a line of a label file holds: nothing if it is blank, otherwise the name before its first
tab and the address behind it, blanks around both left out. -/
inductive Holds : List Char → Option (String × Address) → Prop
  | nothing {line : List Char} (blank : ∀ c ∈ line, isBlank c = true) : Holds line none
  | label {before after : List Char} {a : Address} (first : '\t' ∉ before)
      (named : ¬∀ c ∈ before, isBlank c = true) (address : Address.read? (trim after) = some a) :
      Holds (before ++ '\t' :: after) (some (String.ofList (trim before), a))

/-- The number of a line makes no difference to what is read from it. -/
theorem readLine_eq_ok_iff {number : Nat} {line : List Char} {held : Option (String × Address)} :
    readLine number line = .ok held ↔ Holds line held := by
  constructor
  · intro read
    rw [readLine] at read
    by_cases blank : (trim line).isEmpty = true
    · rw [if_pos blank] at read
      cases read
      exact .nothing (isEmpty_trim_iff.1 blank)
    · rw [if_neg blank] at read
      cases split : splitAtTab? line with
      | none =>
          rw [split] at read
          cases read
      | some parts =>
          obtain ⟨rfl, first⟩ := splitAtTab?_eq_some_iff.1 split
          simp only [split] at read
          by_cases named : (trim parts.1).isEmpty = true
          · rw [if_pos named] at read
            cases read
          · rw [if_neg named] at read
            cases address : Address.read? (trim parts.2) with
            | none =>
                rw [address] at read
                cases read
            | some a =>
                rw [address] at read
                cases read
                exact .label first (fun blank => named (isEmpty_trim_iff.2 blank)) address
  · intro holds
    cases holds with
    | nothing blank => rw [readLine, if_pos (isEmpty_trim_iff.2 blank)]
    | @label before after a first named address =>
        have visible : ¬(trim (before ++ '\t' :: after)).isEmpty = true := fun blank =>
          named fun c mem => isEmpty_trim_iff.1 blank c (List.mem_append_left _ mem)
        have filled : ¬(trim before).isEmpty = true := fun blank => named (isEmpty_trim_iff.1 blank)
        rw [readLine, if_neg visible, splitAtTab?_append first]
        simp only [if_neg filled, address]

/-! ### Files -/

/-- The labels after names were given to addresses one by one. -/
def ofList (labels : List (String × Address)) : Labels :=
  labels.foldl (fun l e => l.insert e.1 e.2) ∅

/-- A text is a label file with the given labels: each line is blank or holds the next one. -/
def Lists (text : String) (labels : List (String × Address)) : Prop :=
  ∃ held, List.Forall₂ Holds (Text.lines text.toList) held ∧ labels = held.reduceOption

/-- The lines are read one by one. The induction is on the lines. -/
theorem readLines_eq_ok_iff {number : Nat} {lines : List (List Char)} {start l : Labels} :
    readLines number start lines = .ok l ↔ ∃ held, List.Forall₂ Holds lines held ∧
      l = held.reduceOption.foldl (fun l e => l.insert e.1 e.2) start := by
  induction lines generalizing number start with
  | nil =>
      constructor
      · intro read
        cases read
        exact ⟨[], .nil, rfl⟩
      · rintro ⟨_, ⟨⟩, rfl⟩
        rfl
  | cons line rest ih =>
      rw [readLines]
      constructor
      · intro read
        cases first : readLine number line with
        | error e =>
            rw [first] at read
            cases read
        | ok held =>
            cases held with
            | none =>
                simp only [first] at read
                obtain ⟨later, holds, rfl⟩ := ih.1 read
                exact ⟨none :: later, .cons (readLine_eq_ok_iff.1 first) holds, rfl⟩
            | some e =>
                simp only [first] at read
                obtain ⟨later, holds, rfl⟩ := ih.1 read
                exact ⟨some e :: later, .cons (readLine_eq_ok_iff.1 first) holds, rfl⟩
      · rintro ⟨held, holds, rfl⟩
        cases holds with
        | @cons _ held _ later first holds =>
            rw [readLine_eq_ok_iff.2 first]
            cases held with
            | none => exact ih.2 ⟨later, holds, rfl⟩
            | some e => exact ih.2 ⟨later, holds, rfl⟩

/-- A text is accepted exactly if it is a label file, and its labels are put in their order. -/
theorem parse_eq_ok_iff {text : String} {l : Labels} :
    parse text = .ok l ↔ ∃ labels, Lists text labels ∧ l = ofList labels := by
  rw [parse, readLines_eq_ok_iff]
  constructor
  · rintro ⟨held, holds, rfl⟩
    exact ⟨held.reduceOption, ⟨held, holds, rfl⟩, rfl⟩
  · rintro ⟨_, ⟨held, holds, rfl⟩, rfl⟩
    exact ⟨held, holds, rfl⟩

end GuestDebugger.Labels
