import GuestDebugger.AddressMap.Lemmas
import GuestDebugger.Proofs.Machine.Batch

/-! # Counted loops

A program sets a counter, repeats instructions that do nothing until the counter is zero, and has
one more instruction behind them. From every place in it the instructions that are left to the last
one are known, each that is executed is one of them, and a batch gets as many of them done as it is
large, if so many are left.

## Implementation notes

The counter is decreased before it is tested. So a counter of zero at the beginning of a round
stands for as many rounds as there are words, and in any case one less than what it stands for is
what is left of it after the round. -/

namespace GuestDebugger

/-- A program that counts down. -/
structure CountedLoop where
  /-- Where the counter is set. -/
  start : Address
  /-- What it is set to. -/
  count : UInt32
  /-- Where the instructions are that do nothing. -/
  body : List Address
  /-- Where the counter is decreased and tested. -/
  back : Address
  /-- What follows. -/
  exit : Address
  /-- The instruction there. -/
  last : Op
  /-- The addresses ascend in this order. -/
  ascending : (start :: (body ++ [back, exit])).Pairwise (· < ·)

namespace CountedLoop

variable (p : CountedLoop)

/-- The addresses of a round. -/
def round : List Address := p.body ++ [p.back]

/-- Where a round begins: at the first instruction of the body, or at the test if there is none. -/
def first : Address := p.body.headD p.back

/-- The instructions in order. -/
def entries : List (Address × Op) :=
  (p.start, .move "ecx" p.count) ::
    (p.body.map (·, .nop) ++ [(p.back, .loop p.first), (p.exit, p.last)])

/-- The program. -/
def listing : Listing := .ofOps p.entries

/-- How many rounds a counter stands for at the beginning of the first of them. -/
def rounds (counter : UInt32) : Nat := if counter = 0 then UInt32.size else counter.toNat

/-- How many instructions are executed from the start to the exit. -/
def total : Nat := 1 + rounds p.count * (p.body.length + 1)

theorem rounds_eq (counter : UInt32) : rounds counter = (counter - 1).toNat + 1 := by
  rw [rounds]
  split
  · rename_i zero
    rw [zero]
    rfl
  · rename_i nonzero
    have positive : 1 ≤ counter.toNat :=
      Nat.pos_of_ne_zero fun zero => nonzero (UInt32.toNat_inj.1 zero)
    have one : (1 : UInt32) ≤ counter := UInt32.le_iff_toNat_le.2 positive
    rw [UInt32.toNat_sub_of_le _ _ one, UInt32.toNat_one]
    omega

theorem round_eq : ∃ rest, p.round = p.first :: rest := by
  rw [round, first]
  cases p.body with
  | nil => exact ⟨[], rfl⟩
  | cons a after => exact ⟨after ++ [p.back], rfl⟩

/-! ### Instructions -/

theorem toList_listing : p.listing.ops.toList = p.entries := by
  have keys : p.entries.map (·.1) = p.start :: (p.body ++ [p.back, p.exit]) := by
    simp [entries, Function.comp_def]
  have sorted : p.entries.Pairwise fun e f => e.1 < f.1 := by
    have ascending := p.ascending
    rw [← keys, List.pairwise_map] at ascending
    exact ascending
  exact congrArg AddressMap.toList (AddressMap.ofList_toList ⟨p.entries, sorted⟩)

/-- An instruction stands at an address of the program, and another one at the next. -/
def Falls (a : Address) (op : Op) (b : Address) : Prop :=
  ∃ before next after, p.entries = before ++ (a, op) :: (b, next) :: after

theorem falls_start : p.Falls p.start (.move "ecx" p.count) p.first := by
  rw [Falls, entries, first]
  cases p.body with
  | nil => exact ⟨[], _, _, rfl⟩
  | cons a after => exact ⟨[], _, _, rfl⟩

theorem falls_back : p.Falls p.back (.loop p.first) p.exit :=
  ⟨(p.start, .move "ecx" p.count) :: p.body.map (·, .nop), p.last, [], by simp [entries]⟩

variable {p}

/-- All instructions of a round but the last one do nothing. -/
theorem falls_body {before after : List Address} {a b : Address}
    (parts : p.round = before ++ a :: b :: after) : p.Falls a .nop b := by
  obtain ⟨middle, c, behind⟩ := List.eq_nil_or_concat (b :: after) |>.resolve_left (by simp)
  have whole : p.body ++ [p.back] = (before ++ a :: middle) ++ [c] := by
    rw [← round, parts, behind]
    simp
  obtain ⟨body, rfl⟩ := List.append_singleton_inj.1 whole
  refine ⟨(p.start, .move "ecx" p.count) :: before.map (·, .nop), ?_⟩
  cases middle with
  | nil =>
      cases behind
      exact ⟨.loop p.first, [(p.exit, p.last)], by simp [entries, body]⟩
  | cons d middle =>
      cases behind
      exact ⟨.nop, middle.map (·, .nop) ++ [(p.back, .loop p.first), (p.exit, p.last)],
        by simp [entries, body]⟩

/-! ### Places -/

/-- Where a machine stands, by its registers, and how many instructions are left to the exit: in a
round, those that are left of it and all of the rounds after it. -/
inductive Place (p : CountedLoop) (r : Registers) : Nat → Prop
  | start (here : r.eip = p.start) : Place p r p.total
  | round {before after : List Address} {a : Address} (parts : p.round = before ++ a :: after)
      (here : r.eip = a) : Place p r (after.length + 1 + (r.ecx - 1).toNat * (p.body.length + 1))
  | exit (here : r.eip = p.exit) (zero : r.ecx = 0) : Place p r 0

variable {r : Registers} {left : Nat}

theorem place_first (here : r.eip = p.first) :
    p.Place r (rounds r.ecx * (p.body.length + 1)) := by
  obtain ⟨rest, whole⟩ := p.round_eq
  have size : rest.length = p.body.length := by
    have lengths := congrArg List.length whole
    simpa [CountedLoop.round] using lengths.symm
  have parts : p.round = [] ++ p.first :: rest := whole
  have place := Place.round parts here
  rw [size] at place
  rw [rounds_eq, Nat.succ_mul, Nat.add_comm]
  exact place

/-- Only at the exit nothing is left. -/
theorem Place.at_exit_iff (place : p.Place r left) : r.eip = p.exit ↔ left = 0 := by
  have before : ∀ a ∈ p.start :: p.round, r.eip = a → r.eip ≠ p.exit := by
    have ascending := p.ascending
    have parts : p.start :: (p.body ++ [p.back, p.exit]) = (p.start :: p.round) ++ [p.exit] := by
      simp [CountedLoop.round]
    rw [parts, List.pairwise_append] at ascending
    rintro a mem rfl
    exact UInt32.ne_of_lt (ascending.2.2 _ mem p.exit (List.mem_singleton_self _))
  cases place with
  | start here => exact iff_of_false (before _ (by simp) here) (by simp [total])
  | round parts here => exact iff_of_false (before _ (by simp [parts]) here) (by omega)
  | exit here => exact iff_of_true here rfl

end CountedLoop

namespace Machine

open CountedLoop

/-- A machine in a loop, and how many instructions are left to the exit; `arrival` is what the
registers are there. -/
structure Counting (p : CountedLoop) (arrival : Registers) (m : Machine) (left : Nat) : Prop where
  listing : m.listing = p.listing
  place : p.Place m.registers left
  others : { m.registers with ecx := 0, eip := p.exit } = arrival

namespace Counting

variable {p : CountedLoop} {arrival : Registers} {m m' : Machine} {h h' : Host} {left : Nat}

/-- At the exit the registers are what they were to be. -/
theorem registers (counting : Counting p arrival m 0) : m.registers = arrival := by
  have here : m.registers.eip = p.exit := counting.place.at_exit_iff.2 rfl
  have zero : m.registers.ecx = 0 := by
    have place := counting.place
    generalize nothing : 0 = left at place
    cases place with
    | start =>
        rw [total] at nothing
        omega
    | round => omega
    | exit _ zero => exact zero
  rw [← counting.others]
  ext1 <;> first | rfl | exact here | exact zero

/-- The instruction where the machine stands, and the address behind it. -/
theorem fetch (counting : Counting p arrival m left) {op : Op} {b : Address}
    (falls : p.Falls m.pc op b) (h : Host) : m.step h = m.execute h op ∧ m.fallThrough = b := by
  obtain ⟨before, next, after, entries⟩ := falls
  have list := p.toList_listing.trans entries
  have here : p.listing.get? m.pc = some op := AddressMap.get?_eq_some_iff.2 (by simp [list])
  have behind : p.listing.nextAddress? m.pc = some b := AddressMap.keyAfter?_of_toList list
  rw [← counting.listing] at here behind
  rw [Machine.step, here, fallThrough, behind]
  exact ⟨rfl, rfl⟩

/-- Only the counter and the instruction pointer change. -/
theorem moved (counting : Counting p arrival m left) {counter : UInt32} {a : Address} {left' : Nat}
    (place : p.Place { m.registers with ecx := counter, eip := a } left') :
    Counting p arrival { m with registers := { m.registers with ecx := counter, eip := a } }
      left' := ⟨counting.listing, place, counting.others⟩

/-- An instruction before the exit is done and leaves one less. The cases are the places: where the
counter is set, inside a round, at its end. -/
theorem step (counting : Counting p arrival m (left + 1)) (h : Host) :
    ∃ m', m.step h = ⟨m', h, .ok ()⟩ ∧ Counting p arrival m' left := by
  have place := counting.place
  generalize all : left + 1 = before at place
  cases place with
  | start here =>
      have falls := p.falls_start
      rw [← here] at falls
      obtain ⟨runs, behind⟩ := counting.fetch falls h
      have place : p.Place { m.registers with ecx := p.count, eip := p.first } _ := place_first rfl
      have one : left = rounds p.count * (p.body.length + 1) := by
        rw [total] at all
        omega
      rw [one]
      refine ⟨_, ?_, counting.moved place⟩
      rw [runs, ← behind]
      rfl
  | @round before after a parts here =>
      cases after with
      | cons b after =>
          have falls := falls_body parts
          rw [← here] at falls
          obtain ⟨runs, behind⟩ := counting.fetch falls h
          have parts' : p.round = (before ++ [a]) ++ b :: after := by simp [parts]
          have place : p.Place { m.registers with eip := b } _ := .round parts' rfl
          have one : left =
              after.length + 1 + (m.registers.ecx - 1).toNat * (p.body.length + 1) := by
            rw [List.length_cons] at all
            omega
          rw [one]
          refine ⟨_, ?_, counting.moved place⟩
          rw [runs, ← behind]
          rfl
      | nil =>
          obtain rfl : p.back = a := (List.append_singleton_inj.1 parts).2
          have falls := p.falls_back
          rw [← here] at falls
          obtain ⟨runs, behind⟩ := counting.fetch falls h
          have one : left = (m.registers.ecx - 1).toNat * (p.body.length + 1) := by
            rw [List.length_nil] at all
            omega
          by_cases zero : m.registers.ecx - 1 = 0
          · have place : p.Place { m.registers with ecx := m.registers.ecx - 1, eip := p.exit } 0 :=
              .exit rfl zero
            rw [zero, UInt32.toNat_zero, Nat.zero_mul] at one
            rw [one]
            refine ⟨_, ?_, counting.moved place⟩
            rw [runs, ← behind]
            simp only [execute, if_pos zero]
            rfl
          · have place :
                p.Place { m.registers with ecx := m.registers.ecx - 1, eip := p.first } _ :=
              place_first rfl
            rw [rounds, if_neg zero, ← one] at place
            refine ⟨_, ?_, counting.moved place⟩
            rw [runs]
            simp only [execute, if_neg zero]
            rfl
  | exit => omega

/-- Instructions that stop at the exit are among those that are left. The induction is on the
instructions. -/
theorem runs {n : Nat} (counting : Counting p arrival m left)
    (stop : m.hasBreak p.exit = true) (runs : Runs n m h m' h') :
    n ≤ left ∧ h' = h ∧ Counting p arrival m' (left - n) := by
  induction runs generalizing left with
  | nothing => exact ⟨Nat.zero_le left, rfl, counting⟩
  | @more n m m₁ m' h h₁ h' free first _ _ ih =>
      cases left with
      | zero =>
          have here : m.pc = p.exit := counting.place.at_exit_iff.2 rfl
          rw [here, stop] at free
          cases free
      | succ left =>
          obtain ⟨m₂, done, counting'⟩ := counting.step h
          cases first.symm.trans done
          have frame : Frame m h m₁ h := (Runs.more free first (.inl rfl) (.nothing m₁ h)).frame
          have stop' : m₁.hasBreak p.exit = true := by
            rw [hasBreak, frame.breaks]
            exact stop
          obtain ⟨fewer, same, counting''⟩ := ih counting' stop'
          have rest : left + 1 - (n + 1) = left - n := Nat.add_sub_add_right left 1 n
          exact ⟨Nat.succ_le_succ fewer, same, rest ▸ counting''⟩

/-- A batch that stops only at the exit executes as many instructions as it is large, or all that
are left. -/
theorem stepMany (counting : Counting p arrival m left)
    (breaks : ∀ a, m.hasBreak a = true ↔ a = p.exit) (alive : h.exitCode = none) (count : UInt32) :
    ∃ n m', m.stepMany h count = ⟨m', h, .ok (UInt32.ofNat n)⟩ ∧ n = min count.toNat left ∧
      Counting p arrival m' (left - n) := by
  have stop : m.hasBreak p.exit = true := (breaks p.exit).2 rfl
  have batched := batched_stepMany m h count
  generalize m.stepMany h count = ran at batched ⊢
  cases batched with
  | @finished n m' _ total runs bounded full sum =>
      obtain ⟨fewer, rfl, counting'⟩ := counting.runs stop runs
      refine ⟨n, m', ?_, ?_, counting'⟩
      · rw [sum, UInt32.zero_add]
      · rcases Nat.lt_or_ge n count.toNat with less | more
        · rcases full less with atBreak | ⟨-, ended⟩
          · rw [hasBreak, runs.frame.breaks] at atBreak
            have here : m'.pc = p.exit := (breaks _).1 atBreak
            have nothing := counting'.place.at_exit_iff.1 here
            omega
          · rw [alive] at ended
            cases ended
        · omega
  | @failed n m₁ m' h₁ _ halt runs bounded free alive' fails =>
      obtain ⟨fewer, rfl, counting'⟩ := counting.runs stop runs
      generalize rest : left - n = left' at counting'
      cases left' with
      | zero =>
          have here : m₁.pc = p.exit := counting'.place.at_exit_iff.2 rfl
          rw [hasBreak, runs.frame.breaks, here] at free
          cases stop.symm.trans free
      | succ left' =>
          obtain ⟨_, done, -⟩ := counting'.step h₁
          cases fails.symm.trans done

end Counting

end Machine

end GuestDebugger
