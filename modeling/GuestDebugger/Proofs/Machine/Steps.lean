import GuestDebugger.Proofs.Machine.Independence

/-! # Batches counted in steps

A batch that tells how many instructions ran leaves machine, host and clock where so many single
steps lead. It is cut short only by the break set or by the end of the guest, and an instruction
that fails in it fails again for whoever steps next. -/

namespace GuestDebugger.Machine

/-- Machine and host after some number of single steps, if none of them fails. -/
def after : (steps : Nat) → Machine → Host → Option (Machine × Host)
  | 0, m, h => some (m, h)
  | n + 1, m, h =>
      match m.step h with
      | ⟨m, h, .ok ()⟩ => after n m h
      | ⟨_, _, .error _⟩ => none

theorem after_succ {m m₁ : Machine} {h h₁ : Host} (first : m.step h = ⟨m₁, h₁, .ok ()⟩)
    (n : Nat) : after (n + 1) m h = after n m₁ h₁ := by
  simp only [after, first]

/-- Single steps as a batch makes them: none from an address of the break set, and none but the
first once the guest has ended. -/
structure StepsFreely (n : Nat) (m : Machine) (h : Host) (m' : Machine) (h' : Host) : Prop where
  /-- The steps lead there. -/
  reaches : after n m h = some (m', h')
  /-- Where a step is made, nothing asks the batch to stop. -/
  free : ∀ i < n, ∃ u k, after i m h = some (u, k) ∧ u.pc ∉ m.breaks ∧
    (0 < i → k.exitCode = none)

/-- The induction is on the instructions of the batch: what lies before the `i`-th of the rest lies
before the one after it of all. -/
theorem Runs.stepsFreely {n : Nat} {m m' : Machine} {h h' : Host} (runs : Runs n m h m' h') :
    StepsFreely n m h m' h' := by
  induction runs with
  | nothing m h => exact ⟨rfl, fun _ less => absurd less (Nat.not_lt_zero _)⟩
  | @more n m m₁ m' h h₁ h' free first alive _ ih =>
      have stepped := stepped_step m h
      rw [first] at stepped
      cases stepped with
      | done frame =>
          refine ⟨(after_succ first n).trans ih.reaches, ?_⟩
          intro i less
          cases i with
          | zero => exact ⟨m, h, rfl, of_decide_eq_false free, fun pos => absurd pos (by omega)⟩
          | succ i =>
              obtain ⟨u, k, reached, away, goesOn⟩ := ih.free i (by omega)
              refine ⟨u, k, (after_succ first i).trans reached, frame.breaks ▸ away, fun _ => ?_⟩
              cases i with
              | zero =>
                  cases reached
                  exact alive.resolve_left (by omega)
              | succ i => exact goesOn (Nat.succ_pos i)

/-- What a batch comes to, told by single steps. If it finishes, machine, host and clock are where
as many steps lead as it tells; these are no more than it was to execute, and fewer only if it ends
at an address of the break set or after the guest has ended. If it does not finish, they are where
the steps before the failure lead, and the next step fails in the same way and leaves them there. -/
theorem stepMany_counts_steps (m : Machine) (h : Host) (count : UInt32) :
    (∀ m' h' n, m.stepMany h count = ⟨m', h', .ok n⟩ →
      n ≤ count ∧ StepsFreely n.toNat m h m' h' ∧
        (n < count → m'.pc ∈ m.breaks ∨ h'.exitCode.isSome)) ∧
      ∀ m' h' halt, m.stepMany h count = ⟨m', h', .error halt⟩ →
        (∃ e, halt = .error e) ∧ m'.step h' = ⟨m', h', .error halt⟩ ∧
          ∃ n < count.toNat, StepsFreely n m h m' h' ∧ m'.pc ∉ m.breaks ∧
            (0 < n → h'.exitCode = none) := by
  have batched := batched_stepMany m h count
  constructor
  · intro m' h' total eq
    rw [eq] at batched
    cases batched with
    | @finished n _ _ _ runs bounded full sum =>
        have size : n < UInt32.size := Nat.lt_of_le_of_lt bounded count.toNat_lt
        have told : total.toNat = n := by
          rw [sum, UInt32.zero_add, UInt32.toNat_ofNat_of_lt' size]
        refine ⟨UInt32.le_iff_toNat_le.2 (told ▸ bounded), told ▸ runs.stepsFreely, ?_⟩
        intro less
        rcases full (told ▸ UInt32.lt_iff_toNat_lt.1 less) with atBreak | ⟨-, ended⟩
        · exact .inl (runs.frame.breaks ▸ of_decide_eq_true atBreak)
        · exact .inr ended
  · intro m' h' halt eq
    rw [eq] at batched
    cases batched with
    | @failed n m₁ _ h₁ _ _ runs bounded free alive fails =>
        have again := step_of_error (congrArg Ran.outcome fails)
        have stepped := stepped_step m₁ h₁
        rw [fails] at stepped again
        cases again
        refine ⟨?_, fails, n, bounded, runs.stepsFreely, ?_, ?_⟩
        · cases stepped with
          | failed e => exact ⟨e, rfl⟩
        · exact runs.frame.breaks ▸ of_decide_eq_false free
        · intro pos
          exact alive.resolve_left (Nat.ne_of_gt pos)

/-- A batch that is cut short by the break set while the clock moves, and the same one without the
break set, which meets an instruction that fails. -/
theorem stepMany_counts_steps_to_a_failure :
    let m := create (.ofOps [(0x10, .time), (0x11, .nop), (0x12, .fault "boom")]) 16
    let stopping : Machine := BreakSet.addBreak m 0x11
    let h := Host.create 4 { ticks := #[2] }
    let cut := stopping.stepMany h 5
    let failing := m.stepMany h 5
    (cut.outcome = .ok 1 ∧ (1 : UInt32) < 5 ∧ StepsFreely 1 stopping h cut.engine cut.host ∧
        (cut.engine.pc ∈ stopping.breaks ∨ cut.host.exitCode.isSome)) ∧
      failing.outcome = .error (.error (.guestFault "boom")) ∧
        failing.engine.step failing.host = failing.engine.fail failing.host (.guestFault "boom") ∧
          ∃ n < 5, StepsFreely n m h failing.engine failing.host ∧ failing.engine.pc ∉ m.breaks ∧
            (0 < n → failing.host.exitCode = none) := by
  intro m stopping h cut failing
  have few : (1 : UInt32) < 5 := by decide
  obtain ⟨-, free, stops⟩ := (stepMany_counts_steps stopping h 5).1 cut.engine cut.host 1 rfl
  obtain ⟨-, again, there⟩ := (stepMany_counts_steps m h 5).2 failing.engine failing.host
    (.error (.guestFault "boom")) rfl
  exact ⟨⟨rfl, few, free, stops few⟩, rfl, again, there⟩

end GuestDebugger.Machine
