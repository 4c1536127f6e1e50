import GuestDebugger.Proofs.Labels.Files
import Mathlib.Data.List.Induction

/-! # Histories of labels

Addresses are given names one by one. At an address stands the last name that it was given. A name
is found where it was put last, as long as that address is given no other name; once it is, the name
is not found any more, even if it stands at other addresses still. -/

namespace GuestDebugger.Labels

/-! ### The last element with a property -/

section Last

variable {α : Type} {p q : α → Prop} {xs : List α} {x y : α}

/-- An element of a list with none behind it that has a property. -/
def IsLast (p : α → Prop) (xs : List α) (x : α) : Prop :=
  ∃ before since, xs = before ++ x :: since ∧ ∀ y ∈ since, ¬p y

theorem not_isLast_nil : ¬IsLast p [] x := by
  rintro ⟨before, since, eq, -⟩
  simp at eq

theorem isLast_append_iff : IsLast p (xs ++ [y]) x ↔ y = x ∨ ¬p y ∧ IsLast p xs x := by
  constructor
  · rintro ⟨before, since, eq, later⟩
    rcases List.eq_nil_or_concat' since with rfl | ⟨earlier, last, rfl⟩
    · obtain ⟨-, same⟩ := List.append_inj' eq rfl
      exact .inl (List.cons.inj same).1
    · rw [← List.cons_append, ← List.append_assoc] at eq
      obtain ⟨rfl, same⟩ := List.append_inj' eq rfl
      obtain rfl := (List.cons.inj same).1
      exact .inr ⟨later y (by simp), before, earlier, rfl, fun z mem =>
        later z (List.mem_append_left _ mem)⟩
  · rintro (rfl | ⟨other, before, since, rfl, later⟩)
    · exact ⟨xs, [], rfl, fun _ mem => nomatch mem⟩
    · refine ⟨before, since ++ [y], by simp, fun z mem => ?_⟩
      rcases List.mem_append.1 mem with mem | mem
      · exact later z mem
      · rwa [List.mem_singleton.1 mem]

theorem IsLast.mem (last : IsLast p xs x) : x ∈ xs := by
  obtain ⟨before, since, rfl, -⟩ := last
  simp

theorem IsLast.unique (last : IsLast p xs x) (last' : IsLast p xs y) (here : p x) (there : p y) :
    x = y := by
  induction xs using List.reverseRecOn with
  | nil => exact absurd last not_isLast_nil
  | append_singleton xs z ih =>
      rw [isLast_append_iff] at last last'
      rcases last with rfl | ⟨other, last⟩
      · exact (last'.resolve_right fun later => later.1 here)
      · exact ih last (last'.resolve_left fun eq => other (eq ▸ there)).2

theorem exists_isLast (mem : x ∈ xs) (here : p x) : ∃ y, p y ∧ IsLast p xs y := by
  induction xs using List.reverseRecOn with
  | nil => cases mem
  | append_singleton xs z ih =>
      by_cases last : p z
      · exact ⟨z, last, isLast_append_iff.2 (.inl rfl)⟩
      · have earlier : x ∈ xs := (List.mem_append.1 mem).resolve_right fun mem =>
          last (List.mem_singleton.1 mem ▸ here)
        obtain ⟨y, there, later⟩ := ih earlier
        exact ⟨y, there, isLast_append_iff.2 (.inr ⟨last, later⟩)⟩

/-- An element that is last for two properties at once is last for each of them. -/
theorem isLast_or_iff :
    IsLast (fun y => p y ∨ q y) xs x ↔ IsLast p xs x ∧ IsLast q xs x := by
  induction xs using List.reverseRecOn with
  | nil => exact iff_of_false not_isLast_nil fun last => not_isLast_nil last.1
  | append_singleton xs z ih =>
      simp only [isLast_append_iff, ih, not_or]
      by_cases same : z = x
      · simp [same]
      · simp only [same, false_or]
        exact and_and_and_comm

end Last

/-! ### What stands and what is found -/

variable {labels : List (String × Address)} {name : String} {a : Address}

theorem ofList_append (labels : List (String × Address)) (e : String × Address) :
    ofList (labels ++ [e]) = (ofList labels).insert e.1 e.2 := by
  rw [ofList, List.foldl_append]
  rfl

theorem sound_ofList (labels : List (String × Address)) : (ofList labels).Sound := by
  induction labels using List.reverseRecOn with
  | nil => exact sound_empty
  | append_singleton labels e ih =>
      rw [ofList_append]
      exact ih.insert e.1 e.2

theorem nameAt?_ofList_eq_some_iff :
    (ofList labels).nameAt? a = some name ↔ IsLast (fun e => e.2 = a) labels (name, a) := by
  induction labels using List.reverseRecOn with
  | nil => simp [ofList, not_isLast_nil]
  | append_singleton labels e ih =>
      obtain ⟨put, b⟩ := e
      rw [ofList_append, nameAt?_insert, isLast_append_iff, Prod.mk.injEq]
      by_cases here : a = b
      · simp [here]
      · simp [here, Ne.symm here, ih]

/-- A name is found at an address that it was put at, if neither was put anew since. -/
theorem lookup?_ofList_eq_some_iff :
    (ofList labels).lookup? name = some a ↔
      IsLast (fun e => e.1 = name ∨ e.2 = a) labels (name, a) := by
  induction labels using List.reverseRecOn with
  | nil => simp [ofList, not_isLast_nil]
  | append_singleton labels e ih =>
      obtain ⟨put, b⟩ := e
      rw [ofList_append, (sound_ofList labels).lookup?_insert, isLast_append_iff, Prod.mk.injEq,
        ← ih]
      by_cases same : name = put
      · simp [same]
      · simp only [if_neg same, Ne.symm same, false_and, false_or]
        by_cases lost : (ofList labels).lookup? name = some b
        · simp [lost, eq_comm]
        · rw [if_neg lost]
          constructor
          · intro found
            exact ⟨fun here => lost (here ▸ found), found⟩
          · exact And.right

/-! ### Lookup by name -/

/-- Labels that were put in an order: what is found by name and what stands at an address. -/
structure Follows (l : Labels) (labels : List (String × Address)) : Prop where
  /-- A name is found where it was put last, if no other name was put there since. -/
  lookup?_iff (name : String) (a : Address) : l.lookup? name = some a ↔
    ∃ before since, labels = before ++ (name, a) :: since ∧ (∀ e ∈ since, e.1 ≠ name) ∧
      ∀ e ∈ since, e.2 = a → e.1 = name
  /-- The last name put at an address stands there. -/
  nameAt?_iff (a : Address) (name : String) : l.nameAt? a = some name ↔
    ∃ before since, labels = before ++ (name, a) :: since ∧ ∀ e ∈ since, e.2 ≠ a
  /-- A name stands where it is found. -/
  stands (name : String) (a : Address) : l.lookup? name = some a → l.nameAt? a = some name

theorem follows_ofList (labels : List (String × Address)) : Follows (ofList labels) labels where
  lookup?_iff name a := by
    rw [lookup?_ofList_eq_some_iff]
    constructor
    · rintro ⟨before, since, eq, later⟩
      refine ⟨before, since, eq, fun e mem same => later e mem (.inl same), fun e mem here => ?_⟩
      exact absurd (.inr here) (later e mem)
    · rintro ⟨before, since, eq, notPut, kept⟩
      refine ⟨before, since, eq, fun e mem either => ?_⟩
      exact notPut e mem (either.elim id (kept e mem))
  nameAt?_iff _ _ := nameAt?_ofList_eq_some_iff
  stands := sound_ofList labels

/-- Both ways of looking labels up follow the order in which the labels were put, and those of a
label file are put line by line. -/
theorem labels_follow_history :
    (∀ labels, Follows (ofList labels) labels) ∧
      ∀ text l, parse text = .ok l → ∃ labels, Lists text labels ∧ Follows l labels := by
  refine ⟨follows_ofList, fun text l read => ?_⟩
  obtain ⟨labels, lists, rfl⟩ := parse_eq_ok_iff.1 read
  exact ⟨labels, lists, follows_ofList labels⟩

/-- A name that moves on, and back again, to an address that has another name by then. -/
def movingLabels : List (String × Address) :=
  [("start", 0x10), ("start", 0x20), ("main", 0x10), ("start", 0x10)]

/-- A file of these labels. -/
def movingText : String := "start\t10\nstart\t20\n\nmain\t10\nstart\t0x10\n"

theorem labels_follow_history_of_moving :
    parse movingText = .ok (ofList movingLabels) ∧
      ∃ labels, Lists movingText labels ∧ Follows (ofList movingLabels) labels := by
  have read : parse movingText = .ok (ofList movingLabels) := rfl
  exact ⟨read, labels_follow_history.2 movingText _ read⟩

/-! ### Names that are shown -/

theorem lookup?_ofList_eq_some_iff_stands {b : Address} :
    (ofList labels).lookup? name = some b ↔
      IsLast (fun e => e.1 = name) labels (name, b) ∧ (ofList labels).nameAt? b = some name := by
  rw [lookup?_ofList_eq_some_iff, isLast_or_iff, nameAt?_ofList_eq_some_iff]

/-- A name is looked for only where it was put last. -/
theorem lookup?_ofList_eq_ite {b : Address}
    (last : IsLast (fun e => e.1 = name) labels (name, b)) :
    (ofList labels).lookup? name =
      if (ofList labels).nameAt? b = some name then some b else none := by
  by_cases stands : (ofList labels).nameAt? b = some name
  · rw [if_pos stands]
    exact lookup?_ofList_eq_some_iff_stands.2 ⟨last, stands⟩
  · rw [if_neg stands]
    refine Option.eq_none_iff_forall_ne_some.2 fun c found => ?_
    obtain ⟨last', stands'⟩ := lookup?_ofList_eq_some_iff_stands.1 found
    obtain rfl : b = c := congrArg Prod.snd (last.unique last' rfl rfl)
    exact stands stands'

/-- Each name that stands at some address is shown there, and it is found exactly if it still stands
at the address where it was put last. -/
def FoundWherePutLast (l : Labels) (labels : List (String × Address)) : Prop :=
  ∀ a name, l.nameAt? a = some name → l.describe a = name ∧
    ∃ b, IsLast (fun e => e.1 = name) labels (name, b) ∧
      l.lookup? name = if l.nameAt? b = some name then some b else none

theorem foundWherePutLast_ofList (labels : List (String × Address)) :
    FoundWherePutLast (ofList labels) labels := by
  intro a name stands
  have put := (nameAt?_ofList_eq_some_iff.1 stands).mem
  obtain ⟨⟨_, b⟩, rfl, last⟩ := exists_isLast (p := fun e => e.1 = name) put rfl
  exact ⟨describe_of_nameAt? stands, b, last, lookup?_ofList_eq_ite last⟩

/-- Names that are shown are found where they were put last, or not at all. The labels of a label
file are put line by line. -/
theorem shown_names_found (labels : List (String × Address)) :
    FoundWherePutLast (ofList labels) labels ∧
      ∀ text l, parse text = .ok l →
        ∃ listed, Lists text listed ∧ FoundWherePutLast l listed := by
  refine ⟨foundWherePutLast_ofList labels, fun text l read => ?_⟩
  obtain ⟨listed, lists, rfl⟩ := parse_eq_ok_iff.1 read
  exact ⟨listed, lists, foundWherePutLast_ofList listed⟩

/-- A name stands at two addresses, of which the later one is given another name. -/
def sharedLabels : List (String × Address) := [("n", 0x10), ("n", 0x20), ("m", 0x20)]

/-- The file of these labels. -/
def sharedText : String := "n\t10\nn\t20\nm\t20\n"

theorem shown_names_found_of_shared :
    parse sharedText = .ok (ofList sharedLabels) ∧
      (ofList sharedLabels).nameAt? 0x10 = some "n" ∧
      ∃ listed, Lists sharedText listed ∧ FoundWherePutLast (ofList sharedLabels) listed := by
  have read : parse sharedText = .ok (ofList sharedLabels) := rfl
  exact ⟨read, rfl, (shown_names_found sharedLabels).2 sharedText _ read⟩

/-- So the name that is shown at the earlier address is not found. -/
theorem shown_name_not_found : ∃ l, parse sharedText = .ok l ∧ l.nameAt? 0x10 = some "n" ∧
    l.describe 0x10 = "n" ∧ l.lookup? "n" = none :=
  ⟨ofList sharedLabels, rfl, rfl, rfl, rfl⟩

end GuestDebugger.Labels
