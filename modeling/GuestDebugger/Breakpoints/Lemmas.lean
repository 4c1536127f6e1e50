import GuestDebugger.AddressMap.Lemmas
import GuestDebugger.Breakpoints

/-! # Entries after a change

What is found at an address of the breakpoint table after each change, whatever break set goes with
it. -/

namespace GuestDebugger.Breakpoints

@[simp] theorem get?_empty (a : Address) : (∅ : Breakpoints).get? a = none := rfl

/-- The entries of a table are those found at some address. -/
theorem mem_toList_iff {t : Breakpoints} {b : Breakpoint} :
    b ∈ t.toList ↔ ∃ a, t.get? a = some b := by
  rw [toList, AddressMap.values, List.mem_map]
  constructor
  · rintro ⟨⟨a, b⟩, entry, rfl⟩
    exact ⟨a, AddressMap.get?_eq_some_iff.2 entry⟩
  · rintro ⟨a, found⟩
    exact ⟨(a, b), AddressMap.get?_eq_some_iff.1 found, rfl⟩

variable {σ : Type} [BreakSet σ] {t : Breakpoints} {s : σ} {a : Address}

theorem get?_add (flags : BreakpointFlags) (x : Address) :
    (t.add s a flags).1.get? x = if x = a then some ⟨a, false, flags⟩ else t.get? x :=
  AddressMap.get?_insert t.entries a x _

theorem get?_remove (x : Address) :
    (t.remove s a).1.get? x = if x = a then none else t.get? x := by
  simp only [remove]
  split
  · exact AddressMap.get?_erase t.entries a x
  · rename_i absent
    split
    · rename_i here
      rw [here, absent]
    · rfl

/-- Without an entry to change, nothing changes. -/
theorem toggle_of_absent (absent : t.get? a = none) :
    t.toggle s a = (.error (.notFound a), t, s) := by
  simp only [toggle, absent]

theorem toggle_of_entry {b : Breakpoint} (entry : t.get? a = some b) :
    t.toggle s a = (.ok (!b.disabled), ⟨t.entries.insert a { b with disabled := !b.disabled }⟩,
      if !b.disabled then BreakSet.removeBreak s a else BreakSet.addBreak s a) := by
  simp only [toggle, entry]

/-- Only where there is no entry, none can be enabled or disabled. -/
theorem toggle_fails_iff : (∃ e, (t.toggle s a).1 = .error e) ↔ t.get? a = none := by
  cases entry : t.get? a with
  | none => simp [toggle_of_absent entry]
  | some b => simp [toggle_of_entry entry]

/-- A failure leaves the table and the break set as they are. -/
theorem toggle_of_error {e : BreakpointError} (failed : (t.toggle s a).1 = .error e) :
    (t.toggle s a).2 = (t, s) := by
  rw [toggle_of_absent (toggle_fails_iff.1 ⟨e, failed⟩)]

theorem get?_toggle (x : Address) :
    (t.toggle s a).2.1.get? x =
      if x = a then (t.get? a).map fun b => { b with disabled := !b.disabled } else t.get? x := by
  cases entry : t.get? a with
  | none =>
      rw [toggle_of_absent entry]
      by_cases here : x = a <;> simp [here, entry]
  | some b =>
      rw [toggle_of_entry entry]
      exact AddressMap.get?_insert t.entries a x _

@[simp] theorem get?_clear (x : Address) : (t.clear s).1.get? x = none := rfl

end GuestDebugger.Breakpoints
