import GuestDebugger.AddressMap.Lemmas
import Mathlib.Data.List.Chain

/-! # Entries in order

A map has a least key, above each address a next one, and from each address on a list of entries.
They tell of one order: the entries ascend, the key of each is followed by the key of the one behind
it, and what lies behind an entry is what there is from the next key on.

## Implementation notes

The next key lies above an address, while the entries from an address on may begin at it. Facts
about both are stated for an entry and what is before and behind it in the list of all, where
neither bound appears. -/

namespace GuestDebugger.AddressMap

variable {α : Type} {m : AddressMap α} {a b : Address}

/-! ### Keys -/

theorem sorted_keys (m : AddressMap α) : m.keys.Pairwise (· < ·) := List.pairwise_map.2 m.sorted

theorem nodup_keys (m : AddressMap α) : m.keys.Nodup := m.sorted_keys.imp UInt32.ne_of_lt

/-- Of ascending addresses the first one is the least. -/
theorem head?_eq_some_iff_of_sorted {l : List Address} (sorted : l.Pairwise (· < ·)) :
    l.head? = some a ↔ a ∈ l ∧ ∀ b ∈ l, a ≤ b := by
  cases l with
  | nil => simp
  | cons c rest =>
      obtain ⟨above, -⟩ := List.pairwise_cons.1 sorted
      rw [List.head?_cons, Option.some.injEq]
      constructor
      · rintro rfl
        exact ⟨List.mem_cons_self, List.forall_mem_cons.2
          ⟨UInt32.le_refl c, fun b later => UInt32.le_of_lt (above b later)⟩⟩
      · rintro ⟨mem, least⟩
        rcases List.mem_cons.1 mem with rfl | later
        · rfl
        · exact absurd (above a later) (UInt32.not_lt.2 (least c List.mem_cons_self))

theorem firstKey?_eq_some_iff : m.firstKey? = some a ↔ a ∈ m ∧ ∀ b ∈ m, a ≤ b := by
  rw [firstKey?, head?_eq_some_iff_of_sorted m.sorted_keys]
  simp only [mem_keys_iff]

/-- The next key is the first of those above. -/
theorem keyAfter?_eq_head? (m : AddressMap α) (a : Address) :
    m.keyAfter? a = (m.keys.filter (a < ·)).head? := List.head?_filter.symm

theorem keyAfter?_eq_some_iff :
    m.keyAfter? a = some b ↔ b ∈ m ∧ a < b ∧ ∀ c ∈ m, a < c → b ≤ c := by
  rw [keyAfter?_eq_head?, head?_eq_some_iff_of_sorted (m.sorted_keys.filter _)]
  simp only [List.mem_filter, mem_keys_iff, decide_eq_true_eq, and_imp, and_assoc]

theorem keyAfter?_eq_none_iff : m.keyAfter? a = none ↔ ∀ b ∈ m, b ≤ a := by
  rw [keyAfter?, List.find?_eq_none]
  simp only [mem_keys_iff, decide_eq_true_eq, UInt32.not_lt]

/-- Above the last address there is no key. Above any other one the next key is that of the first
entry from the following address on. -/
theorem keyAfter?_eq_ite (m : AddressMap α) (a : Address) :
    m.keyAfter? a =
      if a = 0xffffffff then none else (m.entriesFrom (a + 1)).head?.map (·.1) := by
  split
  · rename_i top
    refine keyAfter?_eq_none_iff.2 fun b _ => UInt32.le_iff_toNat_le.2 ?_
    rw [top]
    exact Nat.le_of_lt_succ b.toNat_lt
  · rename_i below
    have room : a.toNat + 1 < 2 ^ 32 := by
      have size := a.toNat_lt
      have differs : a.toNat ≠ 0xffffffff := fun same => below (UInt32.toNat_inj.1 same)
      omega
    have next : (a + 1).toNat = a.toNat + 1 := by
      rw [UInt32.toNat_add, UInt32.toNat_one, Nat.mod_eq_of_lt room]
    have above : ∀ b, a < b ↔ a + 1 ≤ b := fun b => by
      rw [UInt32.lt_iff_toNat_lt, UInt32.le_iff_toNat_le, next, Nat.succ_le_iff]
    rw [keyAfter?, keys, List.find?_map, entriesFrom, List.head?_filter]
    simp only [above, Function.comp_def]

/-! ### Entries -/

theorem mem_entriesFrom_iff {e : Address × α} :
    e ∈ m.entriesFrom a ↔ m.get? e.1 = some e.2 ∧ a ≤ e.1 := by
  rw [entriesFrom, List.mem_filter, get?_eq_some_iff, decide_eq_true_iff]

/-- If the first of ascending entries is not below an address, none is. -/
theorem filter_eq_self_of_le {e : Address × α} {rest : List (Address × α)}
    (sorted : (e :: rest).Pairwise fun e f => e.1 < f.1) (le : a ≤ e.1) :
    (e :: rest).filter (a ≤ ·.1) = e :: rest := by
  have above := (List.pairwise_cons.1 sorted).1
  simp only [List.filter_eq_self, decide_eq_true_eq]
  exact List.forall_mem_cons.2
    ⟨le, fun f later => UInt32.le_trans le (UInt32.le_of_lt (above f later))⟩

/-- Of ascending entries those from an address on are at the end. -/
theorem exists_eq_append_filter {l : List (Address × α)} (sorted : l.Pairwise fun e f => e.1 < f.1)
    (a : Address) : ∃ below, l = below ++ l.filter (a ≤ ·.1) := by
  induction l with
  | nil => exact ⟨[], rfl⟩
  | cons e rest ih =>
      by_cases le : a ≤ e.1
      · exact ⟨[], (filter_eq_self_of_le sorted le).symm⟩
      · obtain ⟨below, parts⟩ := ih (List.pairwise_cons.1 sorted).2
        refine ⟨e :: below, ?_⟩
        rw [List.filter_cons_of_neg (by simpa using le), List.cons_append, ← parts]

theorem exists_eq_append_entriesFrom (m : AddressMap α) (a : Address) :
    ∃ below, m.toList = below ++ m.entriesFrom a := exists_eq_append_filter m.sorted a

section Behind

variable {before after : List (Address × α)} {e : Address × α}

/-- From the address of an entry on there are the entry and what is behind it. -/
theorem entriesFrom_of_toList (entries : m.toList = before ++ e :: after) :
    m.entriesFrom e.1 = e :: after := by
  have sorted := m.sorted
  rw [entries, List.pairwise_append] at sorted
  obtain ⟨-, tail, lower⟩ := sorted
  have early : before.filter (e.1 ≤ ·.1) = [] := by
    simp only [List.filter_eq_nil_iff, decide_eq_true_eq, UInt32.not_le]
    exact fun f mem => lower f mem e List.mem_cons_self
  have late := filter_eq_self_of_le tail (UInt32.le_refl e.1)
  rw [entriesFrom, entries, List.filter_append, early, late, List.nil_append]

/-- From an address of the map on, its entry is the first one. -/
theorem exists_entriesFrom_eq_cons (mem : a ∈ m) :
    ∃ x after, m.entriesFrom a = (a, x) :: after := by
  obtain ⟨x, found⟩ := Option.isSome_iff_exists.1 (mem_iff_isSome.1 mem)
  obtain ⟨before, after, entries⟩ := List.append_of_mem (get?_eq_some_iff.1 found)
  exact ⟨x, after, entriesFrom_of_toList entries⟩

/-- The next key after that of an entry is that of the entry behind it. -/
theorem keyAfter?_eq_of_toList (entries : m.toList = before ++ e :: after) :
    m.keyAfter? e.1 = after.head?.map (·.1) := by
  cases after with
  | cons f rest => exact keyAfter?_of_toList entries
  | nil =>
      have sorted := m.sorted
      rw [entries, List.pairwise_append] at sorted
      refine keyAfter?_eq_none_iff.2 fun b mem => ?_
      rw [← mem_keys_iff, keys, entries, List.map_append, List.mem_append] at mem
      rcases mem with early | last
      · obtain ⟨f, there, rfl⟩ := List.mem_map.1 early
        exact UInt32.le_of_lt (sorted.2.2 f there e List.mem_cons_self)
      · exact UInt32.le_of_eq (List.mem_singleton.1 last)

/-- What is behind an entry is what there is from the next key on. -/
theorem entriesFrom_keyAfter? (entries : m.toList = before ++ e :: after) :
    (m.keyAfter? e.1).elim [] m.entriesFrom = after := by
  rw [keyAfter?_eq_of_toList entries]
  cases after with
  | nil => rfl
  | cons f rest => exact entriesFrom_of_toList (entries.trans (List.append_cons before e _))

/-- The induction is on the entries at the end; what is taken from them goes to those before. -/
theorem isChain_of_toList (entries : m.toList = before ++ after) :
    after.IsChain fun e f => m.keyAfter? e.1 = some f.1 := by
  induction after generalizing before with
  | nil => exact .nil
  | cons e rest ih =>
      have link := keyAfter?_eq_of_toList entries
      have entries' := entries.trans (List.append_cons before e rest)
      cases rest with
      | nil => exact .singleton e
      | cons f rest => exact .cons_cons link (ih entries')

end Behind

/-- The key of each entry from an address on is the next one after that of the entry before it. -/
theorem isChain_entriesFrom (m : AddressMap α) (a : Address) :
    (m.entriesFrom a).IsChain fun e f => m.keyAfter? e.1 = some f.1 := by
  obtain ⟨below, parts⟩ := m.exists_eq_append_entriesFrom a
  exact isChain_of_toList parts

/-- Behind the first entry from an address on, the list is the one from the second entry on. -/
theorem entriesFrom_of_cons_cons {e f : Address × α} {rest : List (Address × α)}
    (listed : m.entriesFrom a = e :: f :: rest) :
    m.keyAfter? e.1 = some f.1 ∧ m.entriesFrom f.1 = f :: rest := by
  obtain ⟨below, parts⟩ := m.exists_eq_append_entriesFrom a
  rw [listed] at parts
  have parts' := parts.trans (List.append_cons below e (f :: rest))
  exact ⟨keyAfter?_eq_of_toList parts, entriesFrom_of_toList parts'⟩

/-- Behind some of the entries from an address on there are those from the next key on. -/
theorem drop_entriesFrom (m : AddressMap α) (a : Address) {n : Nat} (positive : 0 < n) :
    (m.entriesFrom a).drop n =
      (((m.entriesFrom a).take n).getLast?.bind fun e => m.keyAfter? e.1).elim []
        m.entriesFrom := by
  obtain ⟨below, parts⟩ := m.exists_eq_append_entriesFrom a
  generalize m.entriesFrom a = listed at parts ⊢
  cases last : (listed.take n).getLast? with
  | none =>
      have empty : listed = [] :=
        (List.take_eq_nil_iff.1 (List.getLast?_eq_none_iff.1 last)).resolve_left
          (Nat.ne_of_gt positive)
      rw [empty]
      exact List.drop_nil
  | some e =>
      obtain ⟨front, taken⟩ := List.getLast?_eq_some_iff.1 last
      have entries : m.toList = (below ++ front) ++ e :: listed.drop n := by
        calc
          m.toList = below ++ (listed.take n ++ listed.drop n) := by
            rw [List.take_append_drop, parts]
          _ = (below ++ front) ++ e :: listed.drop n := by
            rw [taken]
            simp only [List.append_assoc, List.singleton_append]
      exact (entriesFrom_keyAfter? entries).symm

/-! ### Positions -/

/-- From the first key on there are all entries. -/
theorem entriesFrom_firstKey? (first : m.firstKey? = some a) : m.entriesFrom a = m.toList := by
  have least := (firstKey?_eq_some_iff.1 first).2
  simp only [entriesFrom, List.filter_eq_self, decide_eq_true_eq]
  exact fun e mem => least e.1 (mem_keys_iff.1 (List.mem_map_of_mem mem))

/-- The key at the next position is the next key. -/
theorem getElem?_keys_succ {n : Nat} (here : m.keys[n]? = some a) :
    m.keys[n + 1]? = m.keyAfter? a := by
  rw [keys, List.getElem?_map, Option.map_eq_some_iff] at here
  obtain ⟨e, found, rfl⟩ := here
  obtain ⟨inside, rfl⟩ := List.getElem?_eq_some_iff.1 found
  have entries : m.toList = m.toList.take n ++ m.toList[n] :: m.toList.drop (n + 1) := by
    rw [← List.drop_eq_getElem_cons inside, List.take_append_drop]
  rw [keyAfter?_eq_of_toList entries, List.head?_drop, keys, List.getElem?_map]

end GuestDebugger.AddressMap
