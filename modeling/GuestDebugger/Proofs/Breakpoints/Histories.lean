import GuestDebugger.Breakpoints.Lemmas
import GuestDebugger.Proofs.Session.BreakSet
import Mathlib.Data.Set.Card

/-! # Histories of the breakpoint table

The table and the break set that goes with it start empty and are changed together. After any number
of changes, what both hold at an address is told by the changes at that address alone, and by when
the table was cleared: there is an entry if the address was added and not taken out since, the flags
are those of the last addition, and the entry is disabled if it was toggled an odd number of times
since. -/

namespace GuestDebugger.Breakpoints

/-- What may be done to the table. -/
inductive Change where
  /-- Adds or replaces an entry. -/
  | add (address : Address) (flags : BreakpointFlags)
  /-- Removes an entry. -/
  | remove (address : Address)
  /-- Enables or disables an entry, or fails. -/
  | toggle (address : Address)
  /-- Removes all entries. -/
  | clear
deriving DecidableEq, Repr

namespace Change

/-- The one address at which a change is made. Clearing the table has none. -/
def address? : Change → Option Address
  | add a _ | remove a | toggle a => some a
  | clear => none

/-- Whether a change is made at an address, or at all of them. -/
def Concerns (a : Address) (c : Change) : Prop := c.address?.getD a = a

instance (a : Address) : DecidablePred (Concerns a) :=
  fun c => inferInstanceAs (Decidable (c.address?.getD a = a))

/-- A table and its break set after a change, whether it succeeds or fails. -/
def apply (p : Breakpoints × AddressSet) : Change → Breakpoints × AddressSet
  | add a flags => p.1.add p.2 a flags
  | remove a => p.1.remove p.2 a
  | toggle a => (p.1.toggle p.2 a).2
  | clear => p.1.clear p.2

/-- What a change makes of the entry at an address. -/
def entryAfter (a : Address) (entry : Option Breakpoint) : Change → Option Breakpoint
  | add b flags => if a = b then some ⟨a, false, flags⟩ else entry
  | remove b => if a = b then none else entry
  | toggle b => if a = b then entry.map fun e => { e with disabled := !e.disabled } else entry
  | clear => none

end Change

/-- The table and the break set after changes from the beginning. -/
def after (cs : List Change) : Breakpoints × AddressSet := cs.foldl Change.apply (∅, ∅)

/-! ### The entry at an address -/

namespace Change

variable {p : Breakpoints × AddressSet} {a : Address}

theorem apply_toggle_of_absent (absent : p.1.get? a = none) : (toggle a).apply p = p := by
  simp only [apply, toggle_of_absent absent]

theorem get?_apply (p : Breakpoints × AddressSet) (a : Address) (c : Change) :
    (c.apply p).1.get? a = c.entryAfter a (p.1.get? a) := by
  cases c with
  | add b flags =>
      refine (get?_add flags a).trans ?_
      by_cases here : a = b <;> simp [entryAfter, here]
  | remove b => exact get?_remove a
  | clear => rfl
  | toggle b =>
      refine (get?_toggle a).trans ?_
      by_cases here : a = b <;> simp [entryAfter, here]

/-- A change elsewhere is none of the entry. -/
theorem entryAfter_of_not_concerns {c : Change} (elsewhere : ¬ c.Concerns a)
    (entry : Option Breakpoint) : c.entryAfter a entry = entry := by
  cases c with
  | clear => exact absurd rfl elsewhere
  | add b | remove b | toggle b =>
      have away : a ≠ b := fun here => elsewhere here.symm
      simp only [entryAfter, if_neg away]

end Change

theorem get?_foldl_apply (cs : List Change) (p : Breakpoints × AddressSet) (a : Address) :
    (cs.foldl Change.apply p).1.get? a = cs.foldl (Change.entryAfter a) (p.1.get? a) :=
  (List.foldl_hom (fun p : Breakpoints × AddressSet => p.1.get? a) fun p c =>
    (Change.get?_apply p a c).symm).symm

theorem get?_after (cs : List Change) (a : Address) :
    (after cs).1.get? a = cs.foldl (Change.entryAfter a) none := get?_foldl_apply cs (∅, ∅) a

/-- Only the changes that concern an address make a difference to its entry. -/
theorem get?_after_filter (cs : List Change) (a : Address) :
    (after (cs.filter (·.Concerns a))).1.get? a = (after cs).1.get? a := by
  rw [get?_after, get?_after, List.foldl_filter]
  congr 1
  funext entry c
  by_cases here : c.Concerns a
  · simp [here]
  · simp [here, Change.entryAfter_of_not_concerns here]

/-! ### The break set -/

theorem mem_foldl_removeBreak (bs : List Breakpoint) (breaks : AddressSet) (a : Address) :
    a ∈ bs.foldl (fun s b => if b.disabled then s else BreakSet.removeBreak s b.address) breaks ↔
      a ∈ breaks ∧ ∀ b ∈ bs, b.disabled = false → b.address ≠ a := by
  induction bs generalizing breaks with
  | nil => simp
  | cons b rest ih =>
      rw [List.foldl_cons, ih, List.forall_mem_cons, ← and_assoc]
      refine and_congr_left fun _ => ?_
      cases disabled : b.disabled with
      | true => simp
      | false =>
          have removed : a ∈ BreakSet.removeBreak breaks b.address ↔ a ≠ b.address ∧ a ∈ breaks :=
            AddressMap.mem_erase_iff
          simp [removed, and_comm, eq_comm]

namespace Mirrors

variable {p q : Breakpoints × AddressSet}

/-- Only enabled entries are taken out of the break set when the table is cleared, and that is
enough. -/
theorem clear (mirrors : Mirrors p.1 p.2) : Mirrors (p.1.clear p.2).1 (p.1.clear p.2).2 where
  mem_iff a := by
    simp only [Breakpoints.clear, mem_foldl_removeBreak, get?_empty, reduceCtorEq, false_and,
      exists_false, iff_false, not_and]
    intro mem others
    obtain ⟨b, entry, enabled⟩ := (mirrors.mem_iff a).1 mem
    exact others b (mem_toList_iff.2 ⟨a, entry⟩) enabled (mirrors.address a b entry)
  address a b entry := by cases entry

theorem apply (mirrors : Mirrors p.1 p.2) (c : Change) :
    Mirrors (c.apply p).1 (c.apply p).2 := by
  cases c with
  | add a flags => exact mirrors.insert ⟨a, false, flags⟩
  | remove a =>
      simp only [Change.apply, Breakpoints.remove]
      split
      · exact mirrors.erase a
      · exact mirrors
  | toggle a =>
      cases entry : p.1.get? a with
      | none =>
          rw [Change.apply_toggle_of_absent entry]
          exact mirrors
      | some b =>
          obtain rfl := mirrors.address a b entry
          simp only [Change.apply, toggle_of_entry entry]
          exact mirrors.insert { b with disabled := !b.disabled }
  | clear => exact mirrors.clear

theorem foldl_apply (mirrors : Mirrors p.1 p.2) (cs : List Change) :
    Mirrors (cs.foldl Change.apply p).1 (cs.foldl Change.apply p).2 := by
  induction cs generalizing p with
  | nil => exact mirrors
  | cons c rest ih => exact ih (mirrors.apply c)

/-- Tables with the same entries have the same break sets. -/
theorem eq_of_get?_eq (mirrors : Mirrors p.1 p.2) (mirrors' : Mirrors q.1 q.2)
    (same : ∀ a, p.1.get? a = q.1.get? a) : p = q := by
  have table : p.1 = q.1 := Breakpoints.ext (AddressMap.eq_of_get?_eq same)
  refine Prod.ext table (AddressMap.eq_of_mem_iff fun a => ?_)
  rw [mirrors.mem_iff, mirrors'.mem_iff, table]

end Mirrors

theorem mirrors_after (cs : List Change) : Mirrors (after cs).1 (after cs).2 :=
  Mirrors.empty.foldl_apply cs

/-- Histories that say the same of every entry lead to the same table and the same break set. -/
theorem after_eq_of_get?_eq {cs ds : List Change}
    (same : ∀ a, (after cs).1.get? a = (after ds).1.get? a) : after cs = after ds :=
  (mirrors_after cs).eq_of_get?_eq (mirrors_after ds) same

/-! ### What a history says of an address -/

/-- An address was added, and not taken out since. -/
structure Stands (cs : List Change) (a : Address) (flags : BreakpointFlags) (since : List Change) :
    Prop where
  added : ∃ before, cs = before ++ .add a flags :: since
  notRemoved : .remove a ∉ since
  notCleared : .clear ∉ since

theorem stands_append_iff {cs since : List Change} {c : Change} {a : Address}
    {flags : BreakpointFlags} :
    Stands (cs ++ [c]) a flags since ↔
      c = .add a flags ∧ since = [] ∨
        ∃ earlier, since = earlier ++ [c] ∧ Stands cs a flags earlier ∧ c ≠ .remove a ∧
          c ≠ .clear := by
  constructor
  · rintro ⟨⟨before, eq⟩, notRemoved, notCleared⟩
    rcases List.eq_nil_or_concat' since with rfl | ⟨earlier, last, rfl⟩
    · obtain ⟨-, same⟩ := List.append_inj' eq rfl
      exact .inl ⟨(List.cons.inj same).1, rfl⟩
    · rw [← List.cons_append, ← List.append_assoc] at eq
      obtain ⟨rfl, same⟩ := List.append_inj' eq rfl
      obtain rfl := (List.cons.inj same).1
      simp only [List.mem_append, List.mem_singleton, not_or] at notRemoved notCleared
      exact .inr ⟨earlier, rfl, ⟨⟨before, rfl⟩, notRemoved.1, notCleared.1⟩,
        Ne.symm notRemoved.2, Ne.symm notCleared.2⟩
  · rintro (⟨rfl, rfl⟩ | ⟨earlier, rfl, ⟨⟨before, rfl⟩, notRemoved, notCleared⟩, keeps, stays⟩)
    · exact ⟨⟨cs, rfl⟩, List.not_mem_nil, List.not_mem_nil⟩
    · refine ⟨⟨before, by simp⟩, ?_, ?_⟩
      · simp [notRemoved, Ne.symm keeps]
      · simp [notCleared, Ne.symm stays]

/-- The entry that an addition and the changes since make. -/
def entrySince (a : Address) (flags : BreakpointFlags) (since : List Change) : Breakpoint :=
  ⟨a, since.count (Change.toggle a) % 2 = 1, flags⟩

theorem entrySince_append_toggle (a : Address) (flags : BreakpointFlags) (since : List Change) :
    entrySince a flags (since ++ [Change.toggle a]) =
      { entrySince a flags since with disabled := !(entrySince a flags since).disabled } := by
  have next : (since ++ [Change.toggle a]).count (Change.toggle a) =
      since.count (Change.toggle a) + 1 := by simp
  simp only [entrySince, next, Breakpoint.mk.injEq, and_true, true_and]
  rw [← decide_not, decide_eq_decide]
  omega

theorem entrySince_append_of_ne {a : Address} {flags : BreakpointFlags} {since : List Change}
    {c : Change} (other : c ≠ .toggle a) :
    entrySince a flags (since ++ [c]) = entrySince a flags since := by
  have next : (since ++ [c]).count (Change.toggle a) = since.count (Change.toggle a) := by
    simp [other]
  simp only [entrySince, next]

/-- What a history says of the entry at an address: the last addition still stands, and the toggles
since it are counted. -/
def Leaves (cs : List Change) (a : Address) (b : Breakpoint) : Prop :=
  ∃ flags since, Stands cs a flags since ∧ (∀ f, .add a f ∉ since) ∧ b = entrySince a flags since

section Leaves

variable {cs : List Change} {a : Address} {b : Breakpoint}

theorem leaves_append_add {flags : BreakpointFlags} :
    Leaves (cs ++ [.add a flags]) a b ↔ b = ⟨a, false, flags⟩ := by
  constructor
  · rintro ⟨f, since, stands, last, rfl⟩
    rcases stands_append_iff.1 stands with ⟨eq, rfl⟩ | ⟨earlier, rfl, -⟩
    · cases eq
      rfl
    · exact absurd (by simp) (last flags)
  · rintro rfl
    exact ⟨flags, [], stands_append_iff.2 (.inl ⟨rfl, rfl⟩), by simp, rfl⟩

theorem not_leaves_append {c : Change} (ends : c = .remove a ∨ c = .clear) :
    ¬ Leaves (cs ++ [c]) a b := by
  rintro ⟨flags, since, stands, -⟩
  rcases stands_append_iff.1 stands with ⟨rfl, -⟩ | ⟨-, -, -, keeps, stays⟩
  · rcases ends with ends | ends <;> cases ends
  · exact ends.elim keeps stays

/-- A change that adds nothing at an address and takes nothing out there. -/
theorem leaves_append {c : Change} (adds : ∀ f, c ≠ .add a f) (keeps : c ≠ .remove a)
    (stays : c ≠ .clear) :
    Leaves (cs ++ [c]) a b ↔ ∃ flags since, Stands cs a flags since ∧ (∀ f, .add a f ∉ since) ∧
      b = entrySince a flags (since ++ [c]) := by
  constructor
  · rintro ⟨flags, since, stands, last, rfl⟩
    rcases stands_append_iff.1 stands with ⟨rfl, -⟩ | ⟨earlier, rfl, stands, -⟩
    · exact absurd rfl (adds flags)
    · exact ⟨flags, earlier, stands, fun f mem => last f (List.mem_append_left _ mem), rfl⟩
  · rintro ⟨flags, since, stands, last, rfl⟩
    refine ⟨flags, since ++ [c], stands_append_iff.2 (.inr ⟨since, rfl, stands, keeps, stays⟩),
      fun f mem => ?_, rfl⟩
    rcases List.mem_append.1 mem with mem | mem
    · exact last f mem
    · exact adds f (List.mem_singleton.1 mem).symm

theorem leaves_append_toggle :
    Leaves (cs ++ [.toggle a]) a b ↔
      ∃ e, Leaves cs a e ∧ b = { e with disabled := !e.disabled } := by
  rw [leaves_append (by simp) (by simp) (by simp)]
  simp only [entrySince_append_toggle]
  constructor
  · rintro ⟨flags, since, stands, last, rfl⟩
    exact ⟨_, ⟨flags, since, stands, last, rfl⟩, rfl⟩
  · rintro ⟨_, ⟨flags, since, stands, last, rfl⟩, rfl⟩
    exact ⟨flags, since, stands, last, rfl⟩

theorem leaves_append_of_not_concerns {c : Change} (elsewhere : ¬ c.Concerns a) :
    Leaves (cs ++ [c]) a b ↔ Leaves cs a b := by
  have other : ∀ d : Change, d.Concerns a → c ≠ d := by
    rintro d here rfl
    exact elsewhere here
  rw [leaves_append (fun f => other _ rfl) (other _ rfl) (other _ rfl)]
  simp only [entrySince_append_of_ne (other (.toggle a) rfl)]
  rfl

end Leaves

/-- The entry at an address is the one that the history says. The induction is on the history, its
last change taken off. -/
theorem get?_after_eq_some_iff {cs : List Change} {a : Address} {b : Breakpoint} :
    (after cs).1.get? a = some b ↔ Leaves cs a b := by
  induction cs using List.reverseRecOn generalizing b with
  | nil =>
      constructor
      · intro found
        cases found
      · rintro ⟨flags, since, ⟨⟨before, eq⟩, -⟩, -⟩
        simp at eq
  | append_singleton cs c ih =>
      have last : (after (cs ++ [c])).1.get? a = c.entryAfter a ((after cs).1.get? a) := by
        rw [after, List.foldl_append]
        exact Change.get?_apply _ a c
      rw [last]
      by_cases here : c.Concerns a
      · cases c with
        | add x flags =>
            obtain rfl : x = a := here
            rw [leaves_append_add]
            simp [Change.entryAfter, eq_comm]
        | remove x =>
            obtain rfl : x = a := here
            simp [Change.entryAfter, not_leaves_append]
        | clear => simp [Change.entryAfter, not_leaves_append]
        | toggle x =>
            obtain rfl : x = a := here
            rw [leaves_append_toggle]
            simp only [Change.entryAfter, if_true, Option.map_eq_some_iff, ih,
              eq_comm (a := b)]
      · rw [Change.entryAfter_of_not_concerns here, leaves_append_of_not_concerns here, ih]

/-- An entry stays as long as it is not taken out, whatever else happens to it. -/
theorem isSome_foldl_entryAfter {since : List Change} {a : Address} {entry : Option Breakpoint}
    (there : entry.isSome = true) (notRemoved : .remove a ∉ since) (notCleared : .clear ∉ since) :
    (since.foldl (Change.entryAfter a) entry).isSome = true := by
  refine List.foldlRecOn (motive := fun entry => entry.isSome = true) since
    (Change.entryAfter a) there fun entry there c mem => ?_
  cases c with
  | add b => by_cases here : a = b <;> simp [Change.entryAfter, here, there]
  | toggle b => by_cases here : a = b <;> simp [Change.entryAfter, here, there]
  | clear => exact absurd mem notCleared
  | remove b =>
      have away : a ≠ b := by
        rintro rfl
        exact notRemoved mem
      simp [Change.entryAfter, away, there]

theorem isSome_get?_after_iff {cs : List Change} {a : Address} :
    ((after cs).1.get? a).isSome = true ↔ ∃ flags since, Stands cs a flags since := by
  constructor
  · intro there
    obtain ⟨b, entry⟩ := Option.isSome_iff_exists.1 there
    obtain ⟨flags, since, stands, -⟩ := get?_after_eq_some_iff.1 entry
    exact ⟨flags, since, stands⟩
  · rintro ⟨flags, since, ⟨before, rfl⟩, notRemoved, notCleared⟩
    rw [get?_after, List.foldl_append, List.foldl_cons]
    refine isSome_foldl_entryAfter ?_ notRemoved notCleared
    simp [Change.entryAfter]

/-! ### The order of changes -/

theorem apply_toggle_toggle {p : Breakpoints × AddressSet} (mirrors : Mirrors p.1 p.2)
    (a : Address) : (Change.toggle a).apply ((Change.toggle a).apply p) = p := by
  refine ((mirrors.apply _).apply _).eq_of_get?_eq mirrors fun x => ?_
  rw [Change.get?_apply, Change.get?_apply]
  by_cases here : x = a
  · cases entry : p.1.get? x <;> simp [Change.entryAfter, here]
  · simp only [Change.entryAfter, if_neg here]

theorem after_toggle_toggle (before later : List Change) (a : Address) :
    after (before ++ .toggle a :: .toggle a :: later) = after (before ++ later) := by
  have twice := apply_toggle_toggle (mirrors_after before) a
  rw [after] at twice
  simp only [after, List.foldl_append, List.foldl_cons, twice]

/-- Changes at different addresses may be made in either order. -/
theorem after_swap {c d : Change} (apart : ∀ a, ¬(c.Concerns a ∧ d.Concerns a))
    (before later : List Change) :
    after (before ++ d :: c :: later) = after (before ++ c :: d :: later) := by
  refine after_eq_of_get?_eq fun a => ?_
  rw [← get?_after_filter, ← get?_after_filter (before ++ c :: d :: later)]
  congr 2
  have notBoth := apart a
  by_cases first : c.Concerns a
  · have second : ¬ d.Concerns a := fun second => notBoth ⟨first, second⟩
    simp [List.filter_append, first, second]
  · simp [List.filter_append, List.filter_cons, first]

/-! ### The table as a list -/

theorem pairwise_toList_after (cs : List Change) :
    (after cs).1.toList.Pairwise fun b c => b.address < c.address := by
  have own : ∀ e ∈ (after cs).1.entries.toList, e.2.address = e.1 := fun e mem =>
    (mirrors_after cs).address e.1 e.2 (AddressMap.get?_eq_some_iff.2 mem)
  rw [toList, AddressMap.values, List.pairwise_map]
  refine (after cs).1.entries.sorted.imp_of_mem fun {e f} he hf less => ?_
  rwa [own e he, own f hf]

theorem mem_toList_after_iff {cs : List Change} {b : Breakpoint} :
    b ∈ (after cs).1.toList ↔ Leaves cs b.address b := by
  rw [mem_toList_iff, ← get?_after_eq_some_iff]
  constructor
  · rintro ⟨a, entry⟩
    rwa [(mirrors_after cs).address a b entry]
  · exact fun entry => ⟨b.address, entry⟩

theorem size_after (cs : List Change) :
    (after cs).1.size = {a | ∃ flags since, Stands cs a flags since}.ncard := by
  have addresses : {a | ∃ flags since, Stands cs a flags since} =
      ↑(after cs).1.entries.keys.toFinset := by
    ext a
    rw [Set.mem_ofPred_eq, ← isSome_get?_after_iff, Finset.mem_coe, List.mem_toFinset,
      AddressMap.mem_keys_iff]
    rfl
  have once : (after cs).1.entries.keys.Nodup := by
    refine List.Pairwise.imp (R := (· < ·)) (fun less eq => ?_) ?_
    · exact UInt32.lt_irrefl _ (eq ▸ less)
    · exact List.pairwise_map.2 (after cs).1.entries.sorted
  rw [addresses, Set.ncard_coe_finset, List.toFinset_card_of_nodup once]
  exact (List.length_map _).symm

/-! ### All that a history tells -/

/-- The table and the break set after a history. -/
structure Tells (cs : List Change) : Prop where
  /-- For an address only the changes at it and the clearings count, in their order. -/
  own {a : Address} {ds : List Change} :
    ds.filter (·.Concerns a) = cs.filter (·.Concerns a) →
      (after ds).1.get? a = (after cs).1.get? a ∧ (a ∈ (after ds).2 ↔ a ∈ (after cs).2)
  /-- There is an entry exactly if some addition was not taken out since. -/
  isSome_iff (a : Address) :
    ((after cs).1.get? a).isSome = true ↔ ∃ flags since, Stands cs a flags since
  /-- An entry has the flags of the last addition and is disabled after an odd number of toggles. -/
  entry_iff (a : Address) (b : Breakpoint) : (after cs).1.get? a = some b ↔
    ∃ flags since, Stands cs a flags since ∧ (∀ f, .add a f ∉ since) ∧
      b = ⟨a, since.count (Change.toggle a) % 2 = 1, flags⟩
  /-- The break set holds the addresses of the enabled entries. -/
  mem_breaks_iff (a : Address) :
    a ∈ (after cs).2 ↔ ∃ b, (after cs).1.get? a = some b ∧ b.disabled = false
  /-- A toggle fails exactly if there is no entry. -/
  fails_iff (a : Address) : (∃ e, ((after cs).1.toggle (after cs).2 a).1 = .error e) ↔
    (after cs).1.get? a = none
  /-- A toggle that fails changes nothing. -/
  refused {a : Address} : (after cs).1.get? a = none → after (cs ++ [.toggle a]) = after cs
  /-- As many entries are counted as there are addresses with one. -/
  size_eq : (after cs).1.size = {a | ∃ flags since, Stands cs a flags since}.ncard
  /-- The entries are listed in the order of their addresses. -/
  ordered : (after cs).1.toList.Pairwise fun b c => b.address < c.address
  /-- All entries are listed, and nothing else. -/
  listed (b : Breakpoint) : b ∈ (after cs).1.toList ↔ (after cs).1.get? b.address = some b
  /-- Neighbours at different addresses may change places. -/
  swap {before later : List Change} {c d : Change} : cs = before ++ c :: d :: later →
    (∀ a, ¬(c.Concerns a ∧ d.Concerns a)) → after (before ++ d :: c :: later) = after cs
  /-- Two toggles of one address in a row may be left out. -/
  cancel {before later : List Change} {a : Address} :
    cs = before ++ .toggle a :: .toggle a :: later → after (before ++ later) = after cs

/-- Every history tells the table and the break set address by address. -/
theorem tables_tell_history (cs : List Change) : Tells cs where
  own {a ds} same := by
    have entry : (after ds).1.get? a = (after cs).1.get? a := by
      rw [← get?_after_filter, same, get?_after_filter]
    refine ⟨entry, ?_⟩
    rw [(mirrors_after ds).mem_iff, (mirrors_after cs).mem_iff, entry]
  isSome_iff _ := isSome_get?_after_iff
  entry_iff _ _ := get?_after_eq_some_iff
  mem_breaks_iff := (mirrors_after cs).mem_iff
  fails_iff _ := toggle_fails_iff
  refused absent := by
    rw [after, List.foldl_append]
    exact Change.apply_toggle_of_absent absent
  size_eq := size_after cs
  ordered := pairwise_toList_after cs
  listed _ := mem_toList_after_iff.trans get?_after_eq_some_iff.symm
  swap eq apart := by
    rw [eq]
    exact after_swap apart _ _
  cancel eq := by
    rw [eq]
    exact (after_toggle_toggle _ _ _).symm

/-- An entry that was removed and added anew: what came before the removal is forgotten, and of what
came since only the toggles at its own address count. -/
example : (after [.add 0x10 { temporary := true }, .toggle 0x10, .remove 0x10, .add 0x10 {},
    .add 0x11 {}, .toggle 0x10, .toggle 0x11, .toggle 0x11]).1.toList =
    [⟨0x10, true, {}⟩, ⟨0x11, false, {}⟩] := by decide

end GuestDebugger.Breakpoints
