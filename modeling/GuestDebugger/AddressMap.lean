import GuestDebugger.Address

/-! # Maps keyed by address

A map holds its entries in strictly ascending order of their addresses, so two maps with the same
entries are equal. Entries are found by address, from an address on, and at or below an address. -/

namespace GuestDebugger

/-- A finite map whose keys are addresses. -/
@[ext] structure AddressMap (α : Type) where
  /-- The entries in ascending order of their addresses. -/
  toList : List (Address × α)
  /-- Each address is less than the next. -/
  sorted : toList.Pairwise fun p q => p.1 < q.1

namespace AddressMap

variable {α : Type}

/-- Puts an entry in its place; an entry with the same address is replaced. -/
def insertEntry (a : Address) (x : α) : List (Address × α) → List (Address × α)
  | [] => [(a, x)]
  | e :: rest =>
    if a < e.1 then (a, x) :: e :: rest
    else if a = e.1 then (a, x) :: rest
    else e :: insertEntry a x rest

theorem mem_insertEntry {a : Address} {x : α} {e : Address × α} {l : List (Address × α)}
    (h : e ∈ insertEntry a x l) : e = (a, x) ∨ e ∈ l := by
  induction l with
  | nil => simpa [insertEntry] using h
  | cons head rest ih =>
    simp only [insertEntry] at h
    split at h
    · simpa using h
    · split at h
      · rcases List.mem_cons.1 h with rfl | h
        · exact .inl rfl
        · exact .inr (List.mem_cons_of_mem _ h)
      · rcases List.mem_cons.1 h with rfl | h
        · exact .inr List.mem_cons_self
        · exact (ih h).imp id (List.mem_cons_of_mem _)

theorem sorted_insertEntry {a : Address} {x : α} {l : List (Address × α)}
    (h : l.Pairwise fun p q => p.1 < q.1) :
    (insertEntry a x l).Pairwise fun p q => p.1 < q.1 := by
  induction l with
  | nil => simp [insertEntry]
  | cons head rest ih =>
    obtain ⟨above, tail⟩ := List.pairwise_cons.1 h
    simp only [insertEntry]
    split
    · rename_i lt
      refine List.pairwise_cons.2 ⟨fun e he => ?_, h⟩
      rcases List.mem_cons.1 he with rfl | he
      · exact lt
      · exact UInt32.lt_trans lt (above e he)
    · split
      · rename_i eq
        exact List.pairwise_cons.2 ⟨fun e he => by simpa [eq] using above e he, tail⟩
      · rename_i le ne
        refine List.pairwise_cons.2 ⟨fun e he => ?_, ih tail⟩
        rcases mem_insertEntry he with rfl | he
        · exact UInt32.lt_of_le_of_ne (UInt32.not_lt.1 le) (Ne.symm ne)
        · exact above e he

/-- The map without entries. -/
def empty : AddressMap α := ⟨[], .nil⟩

instance : EmptyCollection (AddressMap α) where
  emptyCollection := empty

instance : Inhabited (AddressMap α) where
  default := empty

/-- Adds an entry; an entry with the same address is replaced. -/
def insert (m : AddressMap α) (a : Address) (x : α) : AddressMap α :=
  ⟨insertEntry a x m.toList, sorted_insertEntry m.sorted⟩

/-- Removes the entry at an address, if there is one. -/
def erase (m : AddressMap α) (a : Address) : AddressMap α :=
  ⟨m.toList.filter (·.1 ≠ a), m.sorted.filter _⟩

/-- The value at an address. -/
def get? (m : AddressMap α) (a : Address) : Option α := m.toList.lookup a

/-- An address belongs to a map if there is an entry at it. -/
instance : Membership Address (AddressMap α) where
  mem m a := (m.get? a).isSome = true

instance (m : AddressMap α) (a : Address) : Decidable (a ∈ m) :=
  inferInstanceAs (Decidable ((m.get? a).isSome = true))

/-- The number of entries. -/
def size (m : AddressMap α) : Nat := m.toList.length

/-- Whether there is no entry. -/
def isEmpty (m : AddressMap α) : Bool := m.toList.isEmpty

/-- The addresses in ascending order. -/
def keys (m : AddressMap α) : List Address := m.toList.map (·.1)

/-- The values in ascending order of their addresses. -/
def values (m : AddressMap α) : List α := m.toList.map (·.2)

/-- The entries at an address and above it, in ascending order. -/
def entriesFrom (m : AddressMap α) (a : Address) : List (Address × α) :=
  m.toList.filter (a ≤ ·.1)

/-- The least address of an entry. -/
def firstKey? (m : AddressMap α) : Option Address := m.keys.head?

/-- The least address of an entry above the given one. -/
def keyAfter? (m : AddressMap α) (a : Address) : Option Address := m.keys.find? (a < ·)

/-- The entry with the greatest address that is not above the given one. -/
def entryAtOrBelow? (m : AddressMap α) (a : Address) : Option (Address × α) :=
  (m.toList.filter (·.1 ≤ a)).getLast?

/-- The map with the given entries; of entries with one address the last stays. -/
def ofList (entries : List (Address × α)) : AddressMap α :=
  entries.foldl (fun m e => m.insert e.1 e.2) ∅

end AddressMap

/-- A finite set of addresses. -/
abbrev AddressSet := AddressMap Unit

end GuestDebugger
