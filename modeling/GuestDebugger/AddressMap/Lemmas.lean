import GuestDebugger.AddressMap

/-! # Looking entries up

What is found in a map after each change, how many entries there are then, and that a map is known
by what is found in it. -/

namespace GuestDebugger.AddressMap

variable {α : Type}

section Lookup

variable {κ : Type} [BEq κ] [LawfulBEq κ] [DecidableEq κ]

/-- The value of a key is that of its first entry. -/
theorem lookup_cons_eq_ite (b : κ) (e : κ × α) (l : List (κ × α)) :
    (e :: l).lookup b = if b = e.1 then some e.2 else l.lookup b := by
  obtain ⟨a, x⟩ := e
  rw [List.lookup_cons]
  by_cases h : b = a
  · simp [h]
  · have differ : (b == a) = false := by simpa using h
    simp [differ, h]

theorem lookup_filter_ne (a b : κ) (l : List (κ × α)) :
    (l.filter (·.1 ≠ a)).lookup b = if b = a then none else l.lookup b := by
  induction l with
  | nil => simp
  | cons e rest ih =>
    by_cases he : e.1 = a
    · rw [List.filter_cons_of_neg (by simpa using he), ih, lookup_cons_eq_ite, he]
      split <;> rfl
    · rw [List.filter_cons_of_pos (by simpa using he), lookup_cons_eq_ite, ih, lookup_cons_eq_ite]
      by_cases h : b = e.1
      · simp [h, he]
      · simp [h]

end Lookup

theorem lookup_insertEntry (a b : Address) (x : α) (l : List (Address × α)) :
    (insertEntry a x l).lookup b = if b = a then some x else l.lookup b := by
  induction l with
  | nil => simp [insertEntry, lookup_cons_eq_ite]
  | cons e rest ih =>
    simp only [insertEntry]
    split
    · simp only [lookup_cons_eq_ite]
    · split
      · rename_i eq
        simp only [lookup_cons_eq_ite, ← eq]
        split <;> rfl
      · rename_i ne
        simp only [lookup_cons_eq_ite, ih]
        by_cases h : b = e.1
        · simp [h, Ne.symm ne]
        · simp [h]

@[simp] theorem get?_empty (a : Address) : (∅ : AddressMap α).get? a = none := rfl

@[simp] theorem get?_insert (m : AddressMap α) (a b : Address) (x : α) :
    (m.insert a x).get? b = if b = a then some x else m.get? b :=
  lookup_insertEntry a b x m.toList

@[simp] theorem get?_erase (m : AddressMap α) (a b : Address) :
    (m.erase a).get? b = if b = a then none else m.get? b :=
  lookup_filter_ne a b m.toList

theorem mem_iff_isSome {m : AddressMap α} {a : Address} : a ∈ m ↔ (m.get? a).isSome = true := .rfl

@[simp] theorem notMem_empty (a : Address) : a ∉ (∅ : AddressMap α) := by
  simp [mem_iff_isSome]

@[simp] theorem mem_insert_iff {m : AddressMap α} {a b : Address} {x : α} :
    b ∈ m.insert a x ↔ b = a ∨ b ∈ m := by
  simp only [mem_iff_isSome, get?_insert]
  by_cases h : b = a <;> simp [h]

@[simp] theorem mem_erase_iff {m : AddressMap α} {a b : Address} :
    b ∈ m.erase a ↔ b ≠ a ∧ b ∈ m := by
  simp only [mem_iff_isSome, get?_erase]
  by_cases h : b = a <;> simp [h]

/-- What belongs to a sorted list of entries is what is found in it. -/
theorem lookup_eq_some_iff {l : List (Address × α)} (sorted : l.Pairwise fun p q => p.1 < q.1)
    {a : Address} {x : α} : l.lookup a = some x ↔ (a, x) ∈ l := by
  induction l with
  | nil => simp
  | cons e rest ih =>
    obtain ⟨above, tail⟩ := List.pairwise_cons.1 sorted
    rw [lookup_cons_eq_ite, List.mem_cons]
    by_cases h : a = e.1
    · subst h
      have notIn : (e.1, x) ∉ rest := fun hm => by
        have lt := above _ hm
        exact UInt32.lt_irrefl _ lt
      simp [notIn, Prod.ext_iff, eq_comm]
    · have : (a, x) ≠ e := fun he => h (by rw [← he])
      simp [h, this, ih tail]

/-- Entries are looked up at the address they hold. -/
theorem get?_eq_some_iff {m : AddressMap α} {a : Address} {x : α} :
    m.get? a = some x ↔ (a, x) ∈ m.toList := lookup_eq_some_iff m.sorted

/-- Sorted lists in which the same entries are found are equal. -/
theorem eq_of_lookup_eq {l k : List (Address × α)} (hl : l.Pairwise fun p q => p.1 < q.1)
    (hk : k.Pairwise fun p q => p.1 < q.1) (same : ∀ a, l.lookup a = k.lookup a) : l = k := by
  have mem : ∀ e, e ∈ l ↔ e ∈ k := fun e => by
    rw [← lookup_eq_some_iff hl, ← lookup_eq_some_iff hk, same]
  clear same
  induction l generalizing k with
  | nil => exact (List.eq_nil_iff_forall_not_mem.2 fun e he => by simpa using (mem e).2 he).symm
  | cons e rest ih =>
    cases k with
    | nil => simpa using mem e
    | cons f others =>
      obtain ⟨above, tail⟩ := List.pairwise_cons.1 hl
      obtain ⟨above', tail'⟩ := List.pairwise_cons.1 hk
      have heads : e = f := by
        rcases List.mem_cons.1 ((mem e).1 List.mem_cons_self) with eq | he
        · exact eq
        · rcases List.mem_cons.1 ((mem f).2 List.mem_cons_self) with eq | hf
          · exact eq.symm
          · exact absurd (above f hf) (UInt32.lt_asymm (above' e he))
      subst heads
      refine congrArg (e :: ·) (ih tail tail' fun g => ?_)
      have notIn : ∀ {l' : List (Address × α)}, (∀ p ∈ l', e.1 < p.1) → e ∉ l' := fun h he =>
        UInt32.lt_irrefl _ (h e he)
      by_cases hg : g = e
      · subst hg
        simp [notIn above, notIn above']
      · simpa [hg] using mem g

/-- Maps with the same value at every address are equal. -/
theorem eq_of_get?_eq {m n : AddressMap α} (same : ∀ a, m.get? a = n.get? a) : m = n :=
  AddressMap.ext (eq_of_lookup_eq m.sorted n.sorted same)

/-- Added one by one, the entries are those that are added and those that were there. -/
theorem get?_foldl_insert {entries : List (Address × α)} (m : AddressMap α) (a : Address)
    (sorted : entries.Pairwise fun p q => p.1 < q.1) :
    (entries.foldl (fun m e => m.insert e.1 e.2) m).get? a = (entries.lookup a).or (m.get? a) := by
  induction entries generalizing m with
  | nil => rfl
  | cons e rest ih =>
      obtain ⟨above, tail⟩ := List.pairwise_cons.1 sorted
      rw [List.foldl_cons, ih _ tail, get?_insert, lookup_cons_eq_ite]
      by_cases here : a = e.1
      · subst here
        have absent : rest.lookup e.1 = none := by
          refine Option.eq_none_iff_forall_ne_some.2 fun x found => ?_
          have higher := above _ ((lookup_eq_some_iff tail).1 found)
          exact UInt32.lt_irrefl _ higher
        simp [absent]
      · simp [here]

/-- A map is made again of its entries. -/
theorem ofList_toList (m : AddressMap α) : ofList m.toList = m := by
  refine eq_of_get?_eq fun a => ?_
  rw [ofList, get?_foldl_insert _ _ m.sorted, get?_empty, Option.or_none]
  rfl

theorem isEmpty_insert (m : AddressMap α) (a : Address) (x : α) :
    (m.insert a x).isEmpty = false := by
  refine Bool.eq_false_iff.2 fun empty => ?_
  have found := get?_insert m a a x
  rw [get?, List.isEmpty_iff.1 empty] at found
  simp at found

theorem length_insertEntry {a : Address} {x : α} {l : List (Address × α)}
    (absent : l.lookup a = none) : (insertEntry a x l).length = l.length + 1 := by
  induction l with
  | nil => rfl
  | cons e rest ih =>
      rw [lookup_cons_eq_ite] at absent
      simp only [insertEntry]
      split
      · rfl
      · split
        · rename_i eq
          simp [eq] at absent
        · rename_i ne
          rw [if_neg ne] at absent
          rw [List.length_cons, ih absent, List.length_cons]

theorem size_insert_of_notMem {m : AddressMap α} {a : Address} (absent : a ∉ m) (x : α) :
    (m.insert a x).size = m.size + 1 :=
  length_insertEntry (Option.not_isSome_iff_eq_none.1 absent)

/-- The entries up to an address are in ascending order too, so the last of them is the greatest. -/
theorem greatest_of_entryAtOrBelow? {m : AddressMap α} {a b : Address} {x : α}
    (found : m.entryAtOrBelow? a = some (b, x)) :
    m.get? b = some x ∧ b ≤ a ∧ ∀ c ∈ m, c ≤ a → c ≤ b := by
  obtain ⟨lower, entries⟩ := List.getLast?_eq_some_iff.1 found
  have sorted := m.sorted.filter (·.1 ≤ a)
  rw [entries, List.pairwise_append] at sorted
  have here : (b, x) ∈ m.toList.filter (·.1 ≤ a) := by simp [entries]
  obtain ⟨mem, below⟩ := List.mem_filter.1 here
  refine ⟨get?_eq_some_iff.2 mem, by simpa using below, fun c there le => ?_⟩
  obtain ⟨y, at_c⟩ := Option.isSome_iff_exists.1 (mem_iff_isSome.1 there)
  have listed : (c, y) ∈ m.toList.filter (·.1 ≤ a) :=
    List.mem_filter.2 ⟨get?_eq_some_iff.1 at_c, by simpa using le⟩
  rw [entries, List.mem_append, List.mem_singleton] at listed
  rcases listed with early | last
  · exact UInt32.le_of_lt (sorted.2.2 (c, y) early (b, x) List.mem_cons_self)
  · exact UInt32.le_of_eq (congrArg Prod.fst last)

/-- No entry is found exactly if all of them are above the address. -/
theorem entryAtOrBelow?_eq_none_iff {m : AddressMap α} {a : Address} :
    m.entryAtOrBelow? a = none ↔ ∀ b ∈ m, a < b := by
  rw [entryAtOrBelow?, List.getLast?_eq_none_iff, List.filter_eq_nil_iff]
  constructor
  · intro above b mem
    obtain ⟨x, found⟩ := Option.isSome_iff_exists.1 (mem_iff_isSome.1 mem)
    simpa using above (b, x) (get?_eq_some_iff.1 found)
  · intro above e mem
    have found : m.get? e.1 = some e.2 := get?_eq_some_iff.2 mem
    simpa using above e.1 (mem_iff_isSome.2 (by rw [found]; rfl))

/-- The entry that is found is the one with the greatest address that is not above the given one. -/
theorem entryAtOrBelow?_eq_some_iff {m : AddressMap α} {a b : Address} {x : α} :
    m.entryAtOrBelow? a = some (b, x) ↔ m.get? b = some x ∧ b ≤ a ∧ ∀ c ∈ m, c ≤ a → c ≤ b := by
  refine ⟨greatest_of_entryAtOrBelow?, fun ⟨found, below, greatest⟩ => ?_⟩
  have mem : b ∈ m := mem_iff_isSome.2 (by rw [found]; rfl)
  cases entry : m.entryAtOrBelow? a with
  | none => exact absurd (entryAtOrBelow?_eq_none_iff.1 entry b mem) (UInt32.not_lt.2 below)
  | some e =>
      obtain ⟨found', below', greatest'⟩ := greatest_of_entryAtOrBelow? entry
      have mem' : e.1 ∈ m := mem_iff_isSome.2 (by rw [found']; rfl)
      have same : e.1 = b := UInt32.le_antisymm (greatest _ mem' below') (greatest' _ mem below)
      rw [same, found] at found'
      exact congrArg some (Prod.ext same (Option.some.inj found').symm)

/-- The entry at an address is the greatest one that is not above it. -/
theorem entryAtOrBelow?_of_get? {m : AddressMap α} {a : Address} {x : α}
    (found : m.get? a = some x) : m.entryAtOrBelow? a = some (a, x) :=
  entryAtOrBelow?_eq_some_iff.2 ⟨found, UInt32.le_refl a, fun _ _ below => below⟩

theorem mem_keys_iff {m : AddressMap α} {a : Address} : a ∈ m.keys ↔ a ∈ m := by
  rw [keys, List.mem_map, mem_iff_isSome, Option.isSome_iff_exists]
  constructor
  · rintro ⟨⟨b, x⟩, entry, rfl⟩
    exact ⟨x, get?_eq_some_iff.2 entry⟩
  · rintro ⟨x, found⟩
    exact ⟨(a, x), get?_eq_some_iff.1 found, rfl⟩

/-- Of two entries that stand side by side, the second one has the least address above the first. -/
theorem keyAfter?_of_toList {m : AddressMap α} {before after : List (Address × α)} {a b : Address}
    {x y : α} (entries : m.toList = before ++ (a, x) :: (b, y) :: after) :
    m.keyAfter? a = some b := by
  have sorted := m.sorted
  rw [entries, List.pairwise_append] at sorted
  obtain ⟨-, tail, lower⟩ := sorted
  have next : a < b := (List.pairwise_cons.1 tail).1 (b, y) List.mem_cons_self
  rw [keyAfter?, keys, entries, List.find?_eq_some_iff_append]
  refine ⟨by simpa using next, before.map (·.1) ++ [a], after.map (·.1), by simp, ?_⟩
  intro c mem
  have below : c ≤ a := by
    rcases List.mem_append.1 mem with early | here
    · obtain ⟨e, there, rfl⟩ := List.mem_map.1 early
      exact UInt32.le_of_lt (lower e there (a, x) List.mem_cons_self)
    · exact UInt32.le_of_eq (List.mem_singleton.1 here)
  simpa using below

/-- Sets with the same addresses are equal. -/
theorem eq_of_mem_iff {m n : AddressSet} (same : ∀ a, a ∈ m ↔ a ∈ n) : m = n := by
  refine eq_of_get?_eq fun a => ?_
  have both := same a
  rw [mem_iff_isSome, mem_iff_isSome] at both
  cases here : m.get? a with
  | none =>
      rw [here] at both
      exact (Option.not_isSome_iff_eq_none.1 fun there => nomatch both.2 there).symm
  | some x =>
      rw [here] at both
      obtain ⟨y, there⟩ := Option.isSome_iff_exists.1 (both.1 rfl)
      exact there.symm

end GuestDebugger.AddressMap
