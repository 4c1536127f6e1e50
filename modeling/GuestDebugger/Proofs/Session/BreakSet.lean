import GuestDebugger.AddressMap.Lemmas
import GuestDebugger.Proofs.Session.Operations

/-! # The break set mirrors the breakpoint table

The table and the engine's break set hold the same information twice. Every change of the table is
one of three, each of which keeps the two together, and executing changes neither but through
them. -/

namespace GuestDebugger

@[simp] theorem Machine.breaks_addBreak (m : Machine) (a : Address) :
    (BreakSet.addBreak m a).breaks = m.breaks.insert a () := rfl

@[simp] theorem Machine.breaks_removeBreak (m : Machine) (a : Address) :
    (BreakSet.removeBreak m a).breaks = m.breaks.erase a := rfl

namespace Breakpoints

theorem isActive_iff {t : Breakpoints} {a : Address} :
    t.isActive a = true ↔ ∃ b, t.get? a = some b ∧ b.disabled = false := by
  simp only [isActive]
  split
  · rename_i b entry
    simp [entry]
  · rename_i entry
    simp [entry]

/-- A break set with exactly the addresses of the enabled entries of a table, which are stored
under their own addresses. -/
structure Mirrors (t : Breakpoints) (breaks : AddressSet) : Prop where
  /-- The break set holds the enabled entries. -/
  mem_iff : ∀ a, a ∈ breaks ↔ ∃ b, t.get? a = some b ∧ b.disabled = false
  /-- Entries are stored under their own addresses. -/
  address : ∀ a b, t.get? a = some b → b.address = a

namespace Mirrors

variable {t : Breakpoints} {breaks : AddressSet}

theorem empty : Mirrors ∅ ∅ where
  mem_iff a := by
    constructor
    · intro h
      exact absurd h (AddressMap.notMem_empty a)
    · rintro ⟨b, entry, -⟩
      cases entry
  address a b entry := by cases entry

theorem mem_iff_isActive (mirrors : Mirrors t breaks) (a : Address) :
    a ∈ breaks ↔ t.isActive a = true := (mirrors.mem_iff a).trans isActive_iff.symm

/-- An entry replaces the one at its address, and its address is added or taken out. -/
theorem insert (mirrors : Mirrors t breaks) (b : Breakpoint) :
    Mirrors ⟨t.entries.insert b.address b⟩
      (if b.disabled then breaks.erase b.address else breaks.insert b.address ()) where
  mem_iff a := by
    have old := mirrors.mem_iff a
    simp only [get?] at old ⊢
    rw [AddressMap.get?_insert]
    by_cases here : a = b.address
    · cases disabled : b.disabled <;> simp [here, disabled]
    · cases b.disabled <;> simpa [here] using old
  address a x entry := by
    simp only [get?, AddressMap.get?_insert] at entry
    split at entry
    · rename_i here
      cases entry
      exact here.symm
    · exact mirrors.address a x entry

theorem erase (mirrors : Mirrors t breaks) (a : Address) :
    Mirrors ⟨t.entries.erase a⟩ (breaks.erase a) where
  mem_iff x := by
    have old := mirrors.mem_iff x
    simp only [get?] at old ⊢
    rw [AddressMap.mem_erase_iff, AddressMap.get?_erase]
    by_cases h : x = a
    · simp [h]
    · simpa [h] using old
  address x b entry := by
    simp only [get?, AddressMap.get?_erase] at entry
    split at entry
    · cases entry
    · exact mirrors.address x b entry

/-! ### Changing the table of a session -/

variable {m : Machine}

theorem add (mirrors : Mirrors t m.breaks) (a : Address) (flags : BreakpointFlags) :
    Mirrors (t.add m a flags).1 (t.add m a flags).2.breaks := mirrors.insert ⟨a, false, flags⟩

theorem remove (mirrors : Mirrors t m.breaks) (a : Address) :
    Mirrors (t.remove m a).1 (t.remove m a).2.breaks := by
  simp only [Breakpoints.remove]
  split
  · exact mirrors.erase a
  · exact mirrors

theorem toggle (mirrors : Mirrors t m.breaks) (a : Address) :
    Mirrors (t.toggle m a).2.1 (t.toggle m a).2.2.breaks := by
  simp only [Breakpoints.toggle]
  split
  · exact mirrors
  · rename_i b entry
    obtain rfl := mirrors.address a b entry
    have kept := mirrors.insert { b with disabled := !b.disabled }
    cases h : b.disabled <;> simpa [h] using kept

end Mirrors

end Breakpoints

namespace Session

/-- A session whose engine mirrors its breakpoint table. -/
def Mirrored (s : Session Machine) : Prop := s.breakpoints.Mirrors s.engine.breaks

theorem mirrored_create {m : Machine} (fresh : m.breaks = ∅) (settings : StepSettings)
    (clock : Clock) : (create m settings clock).Mirrored := by
  simp only [Mirrored, create, fresh]
  exact .empty

/-- Where no enabled breakpoint is, the engine does not stop. -/
theorem Mirrored.hasBreak_of_inactive {s : Session Machine} (mirrored : s.Mirrored)
    (inactive : s.breakpoints.isActive s.pc = false) : s.engine.hasBreak s.pc = false := by
  have notIn : s.pc ∉ s.engine.breaks := by
    rw [mirrored.mem_iff_isActive, inactive]
    nofun
  simpa [Machine.hasBreak] using notIn

theorem Mirrored.of_progress {s u : Session Machine} (mirrored : s.Mirrored)
    (progress : Progress s u) : u.Mirrored := by
  rw [Mirrored, progress.breakpoints, progress.frame.breaks]
  exact mirrored

theorem Mirrored.removeBreakpoint {s : Session Machine} (mirrored : s.Mirrored) (a : Address) :
    (s.removeBreakpoint a).Mirrored := Breakpoints.Mirrors.remove mirrored a

theorem Mirrored.evaluateStop {u : Session Machine} (mirrored : u.Mirrored) :
    u.evaluateStop.2.Mirrored := by
  have evaluated := evaluated_evaluateStop u
  generalize u.evaluateStop = x at evaluated ⊢
  cases evaluated with
  | exited => exact mirrored
  | goesOn => exact mirrored
  | breakpoint =>
      -- A transient entry goes, and its address with it.
      dsimp only
      split
      · exact mirrored.removeBreakpoint u.pc
      · exact mirrored

theorem Mirrored.of_judged {s : Session Machine} {x : Executed Machine} (mirrored : s.Mirrored)
    (judged : Judged s x) : x.2.Mirrored := by
  cases judged with
  | ended => exact mirrored
  | @failed u _ progress =>
      have kept : u.Mirrored := mirrored.of_progress progress
      exact kept
  | evaluated _ progress => exact (mirrored.of_progress progress).evaluateStop

theorem Mirrored.startRunning {s : Session Machine} (mirrored : s.Mirrored) :
    s.startRunning.Mirrored := by
  simp only [Session.startRunning]
  split <;> exact mirrored

theorem Mirrored.apply {s : Session Machine} (mirrored : s.Mirrored) (o : Operation) :
    (s.apply o).Mirrored := by
  cases o with
  | step | stepMany | runStep | runTurn =>
      exact keeps_of_judged trivial mirrored fun _ => mirrored.of_judged
  | startRunning => exact mirrored.startRunning
  | stopRunning =>
      simp only [Session.apply, Session.stopRunning]
      split <;> exact mirrored
  | runTo a =>
      simp only [Session.apply, Session.runTo]
      split
      · exact mirrored
      · exact Mirrored.startRunning (Breakpoints.Mirrors.add mirrored a { oneShot := true })
  | addBreakpoint a flags => exact Breakpoints.Mirrors.add mirrored a flags
  | removeBreakpoint a => exact mirrored.removeBreakpoint a
  | toggleBreakpoint a => exact Breakpoints.Mirrors.toggle mirrored a
  | takeOutput | setLabels | passTime => exact mirrored

theorem Reachable.mirrored {s : Session Machine} (reached : Reachable s) : s.Mirrored :=
  reached.keeps (fun _ _ settings clock => mirrored_create rfl settings clock)
    (fun _ o mirrored => mirrored.apply o)

/-- In every reachable session the engine stops exactly at the enabled breakpoints, and every
breakpoint is found under its own address. -/
theorem mem_breaks_iff_enabled {s : Session Machine} (reached : Reachable s) :
    (∀ a, a ∈ s.engine.breaks ↔ ∃ b, s.breakpoints.get? a = some b ∧ b.disabled = false) ∧
      ∀ a b, s.breakpoints.get? a = some b → b.address = a :=
  ⟨reached.mirrored.mem_iff, reached.mirrored.address⟩

/-- A temporary breakpoint that was hit is in neither copy, a disabled one only in the table. -/
theorem mem_breaks_iff_enabled_after_hit :
    let start := create (Machine.create (.ofOps [(0x10, .nop), (0x11, .nop)]) 16) {} {}
    let s := (((start.apply (.addBreakpoint 0x12 {})).apply (.toggleBreakpoint 0x12)).apply
      (.addBreakpoint 0x11 { temporary := true })).apply .step
    Reachable s ∧ s.state = .stopped (.breakpoint 0x11) ∧
      s.breakpoints.toList = [⟨0x12, true, {}⟩] ∧
      (∀ a, a ∈ s.engine.breaks ↔ ∃ b, s.breakpoints.get? a = some b ∧ b.disabled = false) ∧
      ∀ a b, s.breakpoints.get? a = some b → b.address = a := by
  intro start s
  have reached : Reachable s :=
    ((((reachable_create _ _ _ _).operation _).operation _).operation _).operation _
  exact ⟨reached, by decide, by decide, mem_breaks_iff_enabled reached⟩

end Session

end GuestDebugger
