import GuestDebugger.Proofs.Machine.Frame

/-! # Batches as single instructions

A batch leaves machine and host as its instructions do when they are executed one by one. It ends
before an address of the break set, after the guest has ended, or when it is full; if an instruction
fails, it ends as that instruction does. -/

namespace GuestDebugger

namespace Machine

/-- Instructions executed one after another: none of them at an address of the break set, and none
but the first after the guest has ended. -/
inductive Runs : Nat → Machine → Host → Machine → Host → Prop
  | nothing (m : Machine) (h : Host) : Runs 0 m h m h
  | more {n : Nat} {m m₁ m' : Machine} {h h₁ h' : Host} (free : m.hasBreak m.pc = false)
      (first : m.step h = ⟨m₁, h₁, .ok ()⟩) (alive : n = 0 ∨ h₁.exitCode = none)
      (rest : Runs n m₁ h₁ m' h') : Runs (n + 1) m h m' h'

/-- A guest that had not ended before the first instruction can go on after the last. -/
theorem Runs.alive {n : Nat} {m m' : Machine} {h h' : Host} (runs : Runs n m h m' h')
    (start : h.exitCode = none) (last : n = 0 ∨ h'.exitCode = none) : h'.exitCode = none := by
  rcases last with rfl | last
  · cases runs
    exact start
  · exact last

/-- Counting an instruction before a batch or with it comes to the same. -/
theorem total_succ (done : UInt32) (n : Nat) :
    done + 1 + UInt32.ofNat n = done + UInt32.ofNat (n + 1) := by
  calc
    done + 1 + UInt32.ofNat n = done + (UInt32.ofNat n + 1) := by
      rw [UInt32.add_assoc, UInt32.add_comm 1]
    _ = done + UInt32.ofNat (n + 1) := by
      rw [UInt32.ofNat_add]
      rfl

/-- What a batch of at most `count` instructions comes to if `done` ran before. -/
inductive Batched (done : UInt32) (count : Nat) (m : Machine) (h : Host) : Ran Machine UInt32 → Prop
  | finished {n : Nat} {m' : Machine} {h' : Host} {total : UInt32} (runs : Runs n m h m' h')
      (bounded : n ≤ count)
      (full : n < count → m'.hasBreak m'.pc = true ∨ (0 < n ∧ h'.exitCode.isSome))
      (sum : total = done + UInt32.ofNat n) : Batched done count m h ⟨m', h', .ok total⟩
  | failed {n : Nat} {m₁ m' : Machine} {h₁ h' : Host} {halt : Halt} (runs : Runs n m h m₁ h₁)
      (bounded : n < count) (free : m₁.hasBreak m₁.pc = false)
      (alive : n = 0 ∨ h₁.exitCode = none) (fails : m₁.step h₁ = ⟨m', h', .error halt⟩) :
      Batched done count m h ⟨m', h', .error halt⟩

/-- A batch in which nothing runs. -/
theorem Batched.nothing {done : UInt32} {count : Nat} {m : Machine} {h : Host}
    (full : 0 < count → m.hasBreak m.pc = true) : Batched done count m h ⟨m, h, .ok done⟩ :=
  .finished (.nothing m h) (Nat.zero_le count) (fun less => .inl (full less)) (by simp)

/-- An instruction before a batch counts as one of the batch. -/
theorem Batched.more {done : UInt32} {count : Nat} {m m₁ : Machine} {h h₁ : Host}
    {ran : Ran Machine UInt32} (free : m.hasBreak m.pc = false)
    (first : m.step h = ⟨m₁, h₁, .ok ()⟩) (alive : h₁.exitCode = none)
    (rest : Batched (done + 1) count m₁ h₁ ran) : Batched done (count + 1) m h ran := by
  cases rest with
  | @finished n m' h' total runs bounded full sum =>
      have shift : total = done + UInt32.ofNat (n + 1) := sum.trans (total_succ done n)
      refine .finished (.more free first (.inr alive) runs) (by omega) ?_ shift
      intro less
      rcases full (by omega) with atBreak | ⟨-, ended⟩
      · exact .inl atBreak
      · exact .inr ⟨by omega, ended⟩
  | @failed n m' _ h' _ _ runs bounded free' alive' fails =>
      have goesOn := runs.alive alive alive'
      exact .failed (.more free first (.inr alive) runs) (by omega) free' (.inr goesOn) fails

/-- The induction follows the batch: an instruction after which it goes on, then the rest of it. -/
theorem batched_runBatch (done : UInt32) (fuel : Nat) (m : Machine) (h : Host) :
    Batched done fuel m h (runBatch done fuel m h) := by
  induction fuel generalizing done m h with
  | zero => exact .nothing (by omega)
  | succ fuel ih =>
      simp only [runBatch]
      split
      · rename_i atBreak
        exact .nothing fun _ => atBreak
      · rename_i notAtBreak
        have free : m.hasBreak m.pc = false := by simpa using notAtBreak
        split
        · rename_i fails
          exact .failed (.nothing m h) (Nat.succ_pos fuel) free (.inl rfl) fails
        · rename_i m₁ h₁ first
          split
          · rename_i ended
            have runs : Runs 1 m h m₁ h₁ := .more free first (.inl rfl) (.nothing m₁ h₁)
            exact .finished runs (by omega) (fun _ => .inr ⟨Nat.one_pos, ended⟩) rfl
          · rename_i goesOn
            exact .more free first (by simpa using goesOn) (ih (done + 1) m₁ h₁)

theorem batched_stepMany (m : Machine) (h : Host) (count : UInt32) :
    Batched 0 count.toNat m h (m.stepMany h count) := batched_runBatch 0 count.toNat m h

/-- What every instruction leaves alone, all of them together do. -/
theorem Runs.frame {n : Nat} {m m' : Machine} {h h' : Host} (runs : Runs n m h m' h') :
    Frame m h m' h' := by
  induction runs with
  | nothing m h => exact .refl m h
  | @more n m m₁ m' h h₁ h' _ first _ _ ih =>
      have stepped := stepped_step m h
      rw [first] at stepped
      cases stepped with
      | done frame => exact frame.trans ih

theorem ends_stepMany (m : Machine) {h : Host} (alive : h.exitCode = none) (count : UInt32) :
    Ends m h (m.stepMany h count) := by
  have batched := batched_stepMany m h count
  generalize m.stepMany h count = ran at batched ⊢
  cases batched with
  | finished runs => exact ⟨runs.frame, fun _ eq => by cases eq⟩
  | @failed n m₁ m' h₁ h' halt runs _ _ alive' fails =>
      have ends := ends_step m₁ (runs.alive alive alive')
      rw [fails] at ends
      refine ⟨runs.frame.trans ends.frame, ?_⟩
      intro halt' eq
      cases eq
      exact ends.failed halt rfl

end Machine

end GuestDebugger
