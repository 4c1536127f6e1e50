import GuestDebugger.AddressMap.Order
import GuestDebugger.Proofs.Machine.Steps

/-! # Falling through

A listing is gone through in two ways: an instruction that is done falls through to the next address
unless it jumps, and a disassembly shows the instructions from an address on. Both take them in the
order of their addresses. From the entry, every instruction is met once. A disassembly goes on from
the address behind its last line, and while nothing jumps, execution goes down its lines. -/

namespace GuestDebugger

/-- An instruction that goes on to the next address when it is done, whatever the registers hold. -/
def Op.FallsThrough : Op → Prop
  | .jump _ | .loop _ => False
  | _ => True

instance (op : Op) : Decidable op.FallsThrough :=
  match op with
  | .jump _ | .loop _ => inferInstanceAs (Decidable False)
  | .nop | .move .. | .time | .write _ | .writeLine _ | .exit _ | .window .. | .surface .. |
    .fill _ | .flip | .poke .. | .fault _ => inferInstanceAs (Decidable True)

namespace Listing

/-- The address that is reached from the entry if that many times the next one is taken. -/
def visit? (l : Listing) : Nat → Option Address
  | 0 => l.entry?
  | n + 1 => (l.visit? n).bind l.nextAddress?

/-- The induction is on the number of times: the next address stands at the next position. -/
theorem visit?_eq_getElem? (l : Listing) (n : Nat) : l.visit? n = l.ops.keys[n]? := by
  induction n with
  | zero => exact List.head?_eq_getElem?
  | succ n ih =>
      rw [visit?, ih]
      cases here : l.ops.keys[n]? with
      | some a => exact (AddressMap.getElem?_keys_succ here).symm
      | none =>
          have behind := Nat.le_succ_of_le (List.getElem?_eq_none_iff.1 here)
          exact (List.getElem?_eq_none behind).symm

/-- The addresses of a listing are gone through in ascending order. -/
structure InOrder (l : Listing) : Prop where
  /-- The entry is the least address. -/
  entry : ∀ a, l.entry? = some a ↔ a ∈ l.ops ∧ ∀ b ∈ l.ops, a ≤ b
  /-- The next address is the least one above. -/
  next : ∀ a b, l.nextAddress? a = some b ↔ b ∈ l.ops ∧ a < b ∧ ∀ c ∈ l.ops, a < c → b ≤ c
  /-- There is a next address unless none is above. -/
  next_none : ∀ a, l.nextAddress? a = none ↔ ∀ b ∈ l.ops, b ≤ a
  /-- The next address is the first from the following word on, and the last word has none. -/
  next_word : ∀ a, l.nextAddress? a =
    if a = 0xffffffff then none else (l.opsFrom (a + 1)).head?.map (·.1)
  /-- From an address on there are all instructions that are not below it, and no others. -/
  listed : ∀ a e, e ∈ l.opsFrom a ↔ l.get? e.1 = some e.2 ∧ a ≤ e.1
  ascending : ∀ a, (l.opsFrom a).Pairwise fun e f => e.1 < f.1
  /-- Each of them stands at the address next to that of the one before it. -/
  linked : ∀ a, (l.opsFrom a).IsChain fun e f => l.nextAddress? e.1 = some f.1
  /-- Every instruction is met once on the way from the entry. -/
  visits : ∀ a ∈ l.ops, ∃! n, l.visit? n = some a
  /-- Nothing else is met, and the way ends when all are. -/
  visited : ∀ n, (∀ a, l.visit? n = some a → a ∈ l.ops) ∧ (l.visit? n = none ↔ l.size ≤ n)

theorem inOrder (l : Listing) : l.InOrder where
  entry _ := AddressMap.firstKey?_eq_some_iff
  next _ _ := AddressMap.keyAfter?_eq_some_iff
  next_none _ := AddressMap.keyAfter?_eq_none_iff
  next_word := l.ops.keyAfter?_eq_ite
  listed _ _ := AddressMap.mem_entriesFrom_iff
  ascending _ := l.ops.sorted.filter _
  linked := l.ops.isChain_entriesFrom
  visits a mem := by
    obtain ⟨n, found⟩ := List.mem_iff_getElem?.1 (AddressMap.mem_keys_iff.2 mem)
    obtain ⟨inside, -⟩ := List.getElem?_eq_some_iff.1 found
    refine ⟨n, (l.visit?_eq_getElem? n).trans found, fun k again => ?_⟩
    have same : l.ops.keys[n]? = l.ops.keys[k]? := by
      rw [found, ← again, visit?_eq_getElem?]
    exact ((List.getElem?_inj inside l.ops.nodup_keys).1 same).symm
  visited n := by
    rw [visit?_eq_getElem?]
    refine ⟨fun a found => AddressMap.mem_keys_iff.1 (List.mem_of_getElem? found), ?_⟩
    rw [List.getElem?_eq_none_iff, AddressMap.keys, List.length_map]
    rfl

end Listing

namespace Machine

variable {m m' : Machine} {h h' : Host}

/-! ### Disassembly -/

/-- The line of a disassembly that shows an instruction. -/
def line (e : Address × Op) : Disassembly := ⟨e.1, e.2.text⟩

theorem disassemble_eq (m : Machine) (a : Address) (count : Nat) :
    m.disassemble a count = ((m.listing.opsFrom a).take count).map line := rfl

/-- The lines of a disassembly stand at the addresses of the instructions from its start on. -/
theorem address_getElem?_disassemble (m : Machine) (a : Address) {count n : Nat}
    (inside : n < count) :
    ((m.disassemble a count)[n]?).map (·.address) = ((m.listing.opsFrom a)[n]?).map (·.1) := by
  rw [disassemble_eq, List.getElem?_map, Option.map_map, List.getElem?_take_of_lt inside]
  rfl

/-- A disassembly goes on from the address behind its last line, if there are both. -/
theorem disassemble_add (m : Machine) (a : Address) {k : Nat} (positive : 0 < k) (n : Nat) :
    m.disassemble a (k + n) = m.disassemble a k ++
      ((m.disassemble a k).getLast?.bind fun d => m.listing.nextAddress? d.address).elim []
        fun b => m.disassemble b n := by
  have last : ((m.disassemble a k).getLast?.bind fun d => m.listing.nextAddress? d.address) =
      ((m.listing.opsFrom a).take k).getLast?.bind fun e => m.listing.nextAddress? e.1 := by
    rw [disassemble_eq, List.getLast?_map, Option.bind_map]
    rfl
  have behind : (m.listing.opsFrom a).drop k =
      (((m.listing.opsFrom a).take k).getLast?.bind fun e => m.listing.nextAddress? e.1).elim []
        m.listing.opsFrom := m.listing.ops.drop_entriesFrom a positive
  rw [← last] at behind
  generalize ((m.disassemble a k).getLast?.bind fun d => m.listing.nextAddress? d.address) = next
    at behind ⊢
  calc
    m.disassemble a (k + n) =
        m.disassemble a k ++ (((m.listing.opsFrom a).drop k).take n).map line := by
      rw [disassemble_eq, List.take_add, List.map_append, ← disassemble_eq]
    _ = m.disassemble a k ++ next.elim [] fun b => m.disassemble b n := by
      rw [behind]
      cases next with
      | none => rw [Option.elim_none, Option.elim_none, List.take_nil, List.map_nil]
      | some b => rfl

/-! ### Execution -/

theorem pc_execute_of_done (m : Machine) (h : Host) {op : Op} (falls : op.FallsThrough)
    (done : (m.execute h op).outcome = .ok ()) : (m.execute h op).engine.pc = m.fallThrough := by
  revert done
  -- An instruction that fails does not get as far as the instruction pointer.
  have failed : ∀ e, (m.fail h e).outcome ≠ .ok () := fun e done => by cases done
  cases op with
  | jump | loop => cases falls
  | nop | time | write | writeLine | exit | window => exact fun _ => rfl
  | fault message => exact fun done => absurd done (failed _)
  | move | poke =>
      simp only [execute]
      split
      · exact fun _ => rfl
      · exact fun done => absurd done (failed _)
  | surface =>
      simp only [execute]
      split
      · exact fun done => absurd done (failed _)
      · exact fun _ => rfl
  | fill | flip =>
      simp only [execute]
      split
      · exact fun done => absurd done (failed _)
      · split
        · exact fun done => absurd done (failed _)
        · exact fun _ => rfl

theorem pc_of_step {op : Op} {b : Address} (here : m.listing.get? m.pc = some op)
    (falls : op.FallsThrough) (next : m.listing.nextAddress? m.pc = some b)
    (done : m.step h = ⟨m', h', .ok ()⟩) : m'.pc = b := by
  simp only [step, here] at done
  have fell := pc_execute_of_done m h falls (congrArg Ran.outcome done)
  rw [done, fallThrough, next] at fell
  exact fell

/-- A machine at an instruction of its program, and the instructions listed behind it. -/
structure StandsAt (m : Machine) (e : Address × Op) (behind : List (Address × Op)) : Prop where
  here : m.pc = e.1
  listed : m.listing.opsFrom e.1 = e :: behind

theorem exists_standsAt (listed : m.pc ∈ m.listing.ops) : ∃ e behind, m.StandsAt e behind := by
  obtain ⟨op, behind, first⟩ := AddressMap.exists_entriesFrom_eq_cons listed
  exact ⟨(m.pc, op), behind, rfl, first⟩

namespace StandsAt

variable {e f : Address × Op} {behind : List (Address × Op)}

/-- An instruction that falls through leads to the one behind it. -/
theorem next (stands : m.StandsAt e (f :: behind)) (falls : e.2.FallsThrough)
    (done : m.step h = ⟨m', h', .ok ()⟩) : m'.StandsAt f behind := by
  have stepped := stepped_step m h
  rw [done] at stepped
  cases stepped with
  | done frame =>
      have found : m.listing.get? m.pc = some e.2 := by
        rw [stands.here]
        exact (AddressMap.mem_entriesFrom_iff.1 (stands.listed ▸ List.mem_cons_self)).1
      obtain ⟨next, listed⟩ := AddressMap.entriesFrom_of_cons_cons stands.listed
      rw [← stands.here] at next
      rw [← frame.listing] at listed
      exact ⟨pc_of_step found falls next done, listed⟩

/-- The induction is on the number of instructions: those behind the first one are listed where it
leads. -/
theorem pc_of_after {n : Nat} (stands : m.StandsAt e behind)
    (falls : ∀ g ∈ (e :: behind).take n, g.2.FallsThrough) (line : (e :: behind)[n]? = some f)
    (reached : after n m h = some (m', h')) : m'.pc = f.1 := by
  induction n generalizing m h e behind with
  | zero =>
      cases line
      cases reached
      exact stands.here
  | succ n ih =>
      cases behind with
      | nil => cases line
      | cons g behind =>
          obtain ⟨first, falls⟩ := List.forall_mem_cons.1 falls
          simp only [after] at reached
          split at reached
          · rename_i done
            exact ih (stands.next first done) falls line reached
          · cases reached

end StandsAt

/-- A machine shows and executes its program in the order of the addresses. -/
structure KeepsOrder (m : Machine) : Prop where
  /-- A disassembly from the entry shows what is met on the way from there. -/
  lines : ∀ a, m.listing.entry? = some a → ∀ count n, n < count →
    ((m.disassemble a count)[n]?).map (·.address) = m.listing.visit? n
  /-- A longer disassembly goes on behind a shorter one from the address next to that of its last
  line. There is no more if it has no line, or there is no next address. -/
  continues : ∀ a k n, 0 < k → m.disassemble a (k + n) = m.disassemble a k ++
    ((m.disassemble a k).getLast?.bind fun d => m.listing.nextAddress? d.address).elim []
      fun b => m.disassemble b n
  /-- While every instruction falls through, each leads to the next line of the disassembly. -/
  executes : m.pc ∈ m.listing.ops → ∀ n h m' h', after n m h = some (m', h') →
    (∀ e ∈ (m.listing.opsFrom m.pc).take n, e.2.FallsThrough) →
      ∀ d, (m.disassemble m.pc (n + 1))[n]? = some d → m'.pc = d.address

theorem keepsOrder (m : Machine) : m.KeepsOrder where
  lines a first count n inside := by
    have all : m.listing.opsFrom a = m.listing.ops.toList := AddressMap.entriesFrom_firstKey? first
    rw [address_getElem?_disassemble m a inside, all, m.listing.visit?_eq_getElem?,
      AddressMap.keys, List.getElem?_map]
  continues a _ n positive := m.disassemble_add a positive n
  executes listed n h m' h' reached falls d line := by
    obtain ⟨e, behind, stands⟩ := exists_standsAt listed
    have lines := stands.listed
    rw [← stands.here] at lines
    have address := m.address_getElem?_disassemble m.pc (Nat.lt_succ_self n)
    rw [line, lines] at address
    rw [lines] at falls
    obtain ⟨f, found, same⟩ := Option.map_eq_some_iff.1 address.symm
    exact (stands.pc_of_after falls found reached).trans same

end Machine

/-- Falling through takes the instructions of a listing in the order in which they are disassembled,
which is that of their addresses. The next address is the least one above, the instructions from an
address on ascend from each to the next, and the way from the entry meets each of them once. A
disassembly goes on from the address next to that of its last line. -/
theorem Listing.falls_through_in_order (l : Listing) :
    l.InOrder ∧ ∀ m : Machine, m.listing = l → m.KeepsOrder :=
  ⟨l.inOrder, fun m _ => m.keepsOrder⟩

/-- Neighbours, and the last address there is. -/
theorem Listing.falls_through_in_order_to_the_top :
    let l : Listing := .ofOps
      [(0xffffffff, .exit 0), (0x11, .write "a"), (0x10, .nop), (0xfffffffe, .time)]
    let m := Machine.create l 16
    let h := Host.create 4 {}
    m.listing = l ∧ l.nextAddress? 0x10 = some 0x11 ∧ l.nextAddress? 0xffffffff = none ∧
      (∃! n, l.visit? n = some 0xffffffff) ∧
      m.disassemble 0x11 (2 + 5) = m.disassemble 0x11 2 ++ m.disassemble 0xffffffff 5 ∧
      ∃ m' h', Machine.after 3 m h = some (m', h') ∧ m'.pc = 0xffffffff := by
  intro l m h
  obtain ⟨inOrder, keepsOrder⟩ := falls_through_in_order l
  have kept := keepsOrder m rfl
  refine ⟨rfl, rfl, inOrder.next_word _, inOrder.visits _ (by decide), ?_, ?_⟩
  · exact kept.continues 0x11 2 5 (by decide)
  · have falls : ∀ e ∈ (l.opsFrom m.pc).take 3, e.2.FallsThrough := by decide
    exact ⟨_, _, rfl, kept.executes (by decide) 3 h _ _ rfl falls ⟨0xffffffff, "exit 0"⟩ rfl⟩

end GuestDebugger
