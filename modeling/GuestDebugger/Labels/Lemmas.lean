import GuestDebugger.AddressMap.Lemmas
import GuestDebugger.Labels

/-! # Looking labels up

What is found at an address and by a name after an address was named, and that a name is found only
where it stands. -/

namespace GuestDebugger.Labels

@[simp] theorem nameAt?_empty (a : Address) : (∅ : Labels).nameAt? a = none := rfl

@[simp] theorem lookup?_empty (name : String) : (∅ : Labels).lookup? name = none := rfl

@[simp] theorem nameAt?_insert (l : Labels) (name : String) (a b : Address) :
    (l.insert name a).nameAt? b = if b = a then some name else l.nameAt? b :=
  AddressMap.get?_insert l.byAddress a b name

theorem lookup_eraseName (names : List (String × Address)) (name other : String) :
    (eraseName names name).lookup other = if other = name then none else names.lookup other :=
  AddressMap.lookup_filter_ne name other names

/-- Another name is lost exactly if it stood at the address and was found there. -/
theorem lookup?_insert (l : Labels) (name other : String) (a : Address) :
    (l.insert name a).lookup? other =
      if other = name then some a
      else if l.nameAt? a = some other ∧ l.lookup? other = some a then none
      else l.lookup? other := by
  by_cases same : other = name
  · simp [insert, lookup?, same]
  · simp only [insert, lookup?, AddressMap.lookup_cons_eq_ite, lookup_eraseName, if_neg same]
    cases stood : l.nameAt? a with
    | none => simp
    | some old =>
        by_cases this : other = old
        · subst this
          by_cases found : l.byName.lookup other = some a <;> simp [found, lookup_eraseName]
        · have others : some old ≠ some other := fun eq => this (Option.some.inj eq).symm
          by_cases found : l.byName.lookup old = some a <;>
            simp [found, lookup_eraseName, this, others]

/-- Names are found only where they stand. -/
def Sound (l : Labels) : Prop := ∀ name a, l.lookup? name = some a → l.nameAt? a = some name

theorem sound_empty : Sound ∅ := fun _ _ found => nomatch found

variable {l : Labels}

/-- Of a name that is found only where it stands, it need not be asked whether it stands there. -/
theorem Sound.lookup?_insert (sound : l.Sound) (name other : String) (a : Address) :
    (l.insert name a).lookup? other =
      if other = name then some a
      else if l.lookup? other = some a then none
      else l.lookup? other := by
  rw [Labels.lookup?_insert]
  by_cases found : l.lookup? other = some a
  · simp [found, sound other a found]
  · simp [found]

theorem Sound.insert (sound : l.Sound) (name : String) (a : Address) : (l.insert name a).Sound := by
  intro other b found
  rw [sound.lookup?_insert] at found
  rw [nameAt?_insert]
  by_cases same : other = name
  · rw [if_pos same, Option.some.injEq] at found
    rw [if_pos found.symm, same]
  · rw [if_neg same] at found
    by_cases lost : l.lookup? other = some a
    · rw [if_pos lost] at found
      cases found
    · rw [if_neg lost] at found
      have elsewhere : b ≠ a := fun here => lost (here ▸ found)
      rw [if_neg elsewhere]
      exact sound other b found

/-- An address with a name is described by the name. -/
theorem describe_of_nameAt? {a : Address} {name : String} (stands : l.nameAt? a = some name) :
    l.describe a = name := by
  rw [describe, AddressMap.entryAtOrBelow?_of_get? stands]
  exact if_pos rfl

end GuestDebugger.Labels
