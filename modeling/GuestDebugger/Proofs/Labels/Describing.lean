import GuestDebugger.Proofs.Labels.Histories

/-! # Addresses described by a label file

An address is described by the closest label at or below it. Which one that is, and what it is
called, is read off the lines of the file: of the addresses on them the greatest that is not above,
and of the lines with this address the last. A text that is no label file is refused for its first
line that is neither blank nor a label. -/

namespace GuestDebugger.Labels

open Text

/-! ### Descriptions -/

variable {labels : List (String × Address)} {x : Address} {shown : String}

/-- How an address is described where labels were put one by one. -/
inductive Describes (labels : List (String × Address)) (x : Address) : String → Prop
  /-- A name was put at the address, no other one since. -/
  | named {name : String} (last : IsLast (fun e => e.2 = x) labels (name, x)) :
      Describes labels x name
  /-- The closest address with a name is below. -/
  | above {name : String} {a : Address} (below : a < x)
      (closest : ∀ e ∈ labels, e.2 ≤ x → e.2 ≤ a)
      (last : IsLast (fun e => e.2 = a) labels (name, a)) :
      Describes labels x (name ++ "+0x" ++ hex (x.toNat - a.toNat))
  /-- All addresses with a name are above. -/
  | bare (above : ∀ e ∈ labels, x < e.2) : Describes labels x ("0x" ++ paddedHex 8 x.toNat)

/-- The addresses with a name are those that one was put at. -/
theorem mem_byAddress_ofList_iff {a : Address} :
    a ∈ (ofList labels).byAddress ↔ ∃ e ∈ labels, e.2 = a := by
  rw [AddressMap.mem_iff_isSome, Option.isSome_iff_exists]
  constructor
  · rintro ⟨name, stands⟩
    exact ⟨(name, a), (nameAt?_ofList_eq_some_iff.1 stands).mem, rfl⟩
  · rintro ⟨e, mem, here⟩
    obtain ⟨⟨name, b⟩, rfl, last⟩ := exists_isLast (p := fun e => e.2 = a) mem here
    exact ⟨name, nameAt?_ofList_eq_some_iff.2 last⟩

theorem forall_mem_byAddress_ofList_iff {p : Address → Prop} :
    (∀ a ∈ (ofList labels).byAddress, p a) ↔ ∀ e ∈ labels, p e.2 := by
  simp only [mem_byAddress_ofList_iff, forall_exists_index, and_imp]
  exact ⟨fun all e mem => all e.2 e mem rfl, fun all a e mem here => here ▸ all e mem⟩

/-- The closest label at or below an address, told by the labels in their order. -/
theorem entryAtOrBelow?_ofList_eq_some_iff {a : Address} {name : String} :
    (ofList labels).byAddress.entryAtOrBelow? x = some (a, name) ↔
      IsLast (fun e => e.2 = a) labels (name, a) ∧ a ≤ x ∧ ∀ e ∈ labels, e.2 ≤ x → e.2 ≤ a := by
  rw [AddressMap.entryAtOrBelow?_eq_some_iff, forall_mem_byAddress_ofList_iff]
  exact and_congr_left fun _ => nameAt?_ofList_eq_some_iff

theorem describes_ofList (labels : List (String × Address)) (x : Address) :
    Describes labels x ((ofList labels).describe x) := by
  rw [describe]
  cases entry : (ofList labels).byAddress.entryAtOrBelow? x with
  | none =>
      have above := AddressMap.entryAtOrBelow?_eq_none_iff.1 entry
      exact .bare (forall_mem_byAddress_ofList_iff.1 above)
  | some closest =>
      obtain ⟨a, name⟩ := closest
      obtain ⟨last, le, greatest⟩ := entryAtOrBelow?_ofList_eq_some_iff.1 entry
      dsimp only
      by_cases here : a = x
      · subst here
        rw [if_pos rfl]
        exact .named last
      · rw [if_neg here, UInt32.toNat_sub_of_le x a le]
        exact .above (UInt32.lt_of_le_of_ne le here) greatest last

/-- There is one description. -/
theorem Describes.eq (describes : Describes labels x shown) :
    (ofList labels).describe x = shown := by
  cases describes with
  | named last => exact describe_of_nameAt? (nameAt?_ofList_eq_some_iff.2 last)
  | above below closest last =>
      have le := UInt32.le_of_lt below
      have entry := entryAtOrBelow?_ofList_eq_some_iff.2 ⟨last, le, closest⟩
      rw [describe, entry]
      dsimp only
      rw [if_neg (UInt32.ne_of_lt below), UInt32.toNat_sub_of_le _ _ le]
  | bare above =>
      have below := AddressMap.entryAtOrBelow?_eq_none_iff.2
        (forall_mem_byAddress_ofList_iff.2 above)
      rw [describe, below]
      rfl

theorem describe_ofList_eq_iff : (ofList labels).describe x = shown ↔ Describes labels x shown :=
  ⟨fun eq => eq ▸ describes_ofList labels x, Describes.eq⟩

/-! ### Refused texts -/

variable {number : Nat} {line : List Char} {lines rest : List (List Char)} {start : Labels}
  {e : LabelError}

/-- Why the line with a number is no line of a label file. -/
inductive Offends (number : Nat) : List Char → LabelError → Prop
  /-- There is something on it, but no tab, or nothing before the first one. -/
  | malformed {line : List Char} (visible : ¬∀ c ∈ line, isBlank c = true)
      (unnamed : ∀ before after, line = before ++ '\t' :: after → '\t' ∉ before →
        ∀ c ∈ before, isBlank c = true) :
      Offends number line (.malformed number)
  /-- What follows the first tab is no address. -/
  | badAddress {before after : List Char} (first : '\t' ∉ before)
      (named : ¬∀ c ∈ before, isBlank c = true) (unreadable : Address.read? (trim after) = none) :
      Offends number (before ++ '\t' :: after) (.badAddress number (String.ofList (trim after)))

theorem readLine_eq_error_iff : readLine number line = .error e ↔ Offends number line e := by
  constructor
  · intro read
    rw [readLine] at read
    by_cases blank : (trim line).isEmpty = true
    · rw [if_pos blank] at read
      cases read
    · rw [if_neg blank] at read
      have visible : ¬∀ c ∈ line, isBlank c = true := fun all => blank (isEmpty_trim_iff.2 all)
      cases split : splitAtTab? line with
      | none =>
          rw [split] at read
          cases read
          refine .malformed visible fun before after parts first => ?_
          rw [splitAtTab?_eq_some_iff.2 ⟨parts, first⟩] at split
          cases split
      | some parts =>
          obtain ⟨before, after⟩ := parts
          simp only [split] at read
          obtain ⟨rfl, first⟩ := splitAtTab?_eq_some_iff.1 split
          by_cases named : (trim before).isEmpty = true
          · rw [if_pos named] at read
            cases read
            refine .malformed visible fun before' after' parts first' => ?_
            rw [splitAtTab?_eq_some_iff.2 ⟨parts, first'⟩] at split
            cases split
            exact isEmpty_trim_iff.1 named
          · rw [if_neg named] at read
            cases address : Address.read? (trim after) with
            | none =>
                rw [address] at read
                cases read
                exact .badAddress first (fun all => named (isEmpty_trim_iff.2 all)) address
            | some a =>
                rw [address] at read
                cases read
  · intro offends
    cases offends with
    | malformed visible unnamed =>
        rw [readLine, if_neg fun blank => visible (isEmpty_trim_iff.1 blank)]
        cases split : splitAtTab? line with
        | none => rfl
        | some parts =>
            obtain ⟨parts, first⟩ := splitAtTab?_eq_some_iff.1 split
            exact if_pos (isEmpty_trim_iff.2 (unnamed _ _ parts first))
    | @badAddress before after first named unreadable =>
        have visible : ¬(trim (before ++ '\t' :: after)).isEmpty = true := fun blank =>
          named fun c mem => isEmpty_trim_iff.1 blank c (List.mem_append_left _ mem)
        rw [readLine, if_neg visible, splitAtTab?_append first]
        simp only [if_neg fun blank => named (isEmpty_trim_iff.1 blank), unreadable]

/-- A line that offends holds nothing that a line may hold. -/
theorem Offends.not_holds (offends : Offends number line e) (held : Option (String × Address)) :
    ¬Holds line held := by
  intro holds
  have read := readLine_eq_error_iff.2 offends
  rw [readLine_eq_ok_iff.2 holds] at read
  cases read

/-- Lines, of which the first has the given number, are refused for the first of them that is
neither blank nor a label. -/
def Rejected (number : Nat) (lines : List (List Char)) (e : LabelError) : Prop :=
  ∃ earlier line later, lines = earlier ++ line :: later ∧
    (∀ line' ∈ earlier, ∃ held, Holds line' held) ∧ (∀ held, ¬Holds line held) ∧
      Offends (number + earlier.length) line e

theorem not_rejected_nil : ¬Rejected number [] e := by
  rintro ⟨earlier, line, later, parts, -⟩
  simp at parts

theorem rejected_cons_iff :
    Rejected number (line :: rest) e ↔
      Offends number line e ∨ (∃ held, Holds line held) ∧ Rejected (number + 1) rest e := by
  have next : ∀ n, number + (n + 1) = number + 1 + n := by omega
  constructor
  · rintro ⟨earlier, line', later, parts, good, bad, offends⟩
    cases earlier with
    | nil =>
        obtain ⟨rfl, -⟩ := List.cons.inj parts
        exact .inl offends
    | cons first earlier =>
        obtain ⟨rfl, rfl⟩ := List.cons.inj parts
        obtain ⟨here, good⟩ := List.forall_mem_cons.1 good
        rw [List.length_cons, next] at offends
        exact .inr ⟨here, earlier, line', later, rfl, good, bad, offends⟩
  · rintro (offends | ⟨here, earlier, line', later, rfl, good, bad, offends⟩)
    · exact ⟨[], line, rest, rfl, nofun, offends.not_holds, offends⟩
    · refine ⟨line :: earlier, line', later, rfl, List.forall_mem_cons.2 ⟨here, good⟩, bad, ?_⟩
      rwa [List.length_cons, next]

/-- Lines are read up to the first that offends. The induction is on the lines. -/
theorem readLines_eq_error_iff :
    readLines number start lines = .error e ↔ Rejected number lines e := by
  induction lines generalizing number start with
  | nil => exact iff_of_false nofun not_rejected_nil
  | cons line rest ih =>
      have read : ∀ held, Holds line held ↔ readLine number line = .ok held :=
        fun _ => readLine_eq_ok_iff.symm
      rw [readLines, rejected_cons_iff, ← readLine_eq_error_iff]
      simp only [read]
      cases readLine number line with
      | error e' => simp
      | ok held => cases held <;> simp [ih]

/-- What the lines of a label file say about each address is how it is described. A text with other
lines is refused for the first of them, which the error names by its number. -/
theorem described_by_lines (text : String) :
    (∀ l, parse text = .ok l → ∃ labels, Lists text labels ∧
      ∀ x shown, l.describe x = shown ↔ Describes labels x shown) ∧
    ∀ e, parse text = .error e ↔ Rejected 1 (Text.lines text.toList) e := by
  refine ⟨fun l read => ?_, fun e => readLines_eq_error_iff⟩
  obtain ⟨labels, lists, rfl⟩ := parse_eq_ok_iff.1 read
  exact ⟨labels, lists, fun x shown => describe_ofList_eq_iff⟩

/-- Labels out of order, with an address that is named again at the end. -/
def scatteredLabels : List (String × Address) :=
  [("loop", 0x20), ("start", 0x10), ("top", 0xffffffff), ("body", 0x20)]

/-- A file of these labels. -/
def scatteredText : String := "loop\t20\n\nstart\t0x10\ntop\tffffffff\nbody\t020\n"

theorem described_by_lines_of_scattered :
    parse scatteredText = .ok (ofList scatteredLabels) ∧
      (ofList scatteredLabels).describe 0x2f = "body+0xf" ∧
      ∃ labels, Lists scatteredText labels ∧
        ∀ x shown, (ofList scatteredLabels).describe x = shown ↔ Describes labels x shown := by
  have read : parse scatteredText = .ok (ofList scatteredLabels) := rfl
  exact ⟨read, rfl, (described_by_lines scatteredText).1 _ read⟩

end GuestDebugger.Labels
