import GuestDebugger.Proofs.Adapter.Responses

/-! # Requests that change nothing

A request that is refused, or that only asks what there is, comes to one message and nothing else.
The program and what the client owns are then what the worker alone would have made of them in the
same time. -/

namespace GuestDebugger.Adapter

namespace Request

/-- The requests that only ask what there is. -/
def inquiries : List String :=
  ["initialize", "threads", "scopes", "stackTrace", "variables", "disassemble"]

variable {r : Request} {s : Server} {files : Files} {clock : Clock}

/-- What an inquiry comes to: the server is as it was, and one message is to be sent. -/
theorem Accepted.eq_of_inquiry {t : Server} {actions : List Action}
    (accepted : r.Accepted s t actions) (asks : r.command ∈ inquiries) :
    t = s ∧ ∃ content, actions = [.send content] := by
  have other {command : String} (named : r.command = command) : command ∈ inquiries :=
    named ▸ asks
  cases accepted with
  | refused | answered => exact ⟨rfl, _, rfl⟩
  | launched _ named | configured _ named | replaced _ named | toggled _ named | ranTo _ named
  | resumed _ _ named | paused _ named | disconnected named =>
      exact absurd (other named) (by decide)
  | stepped _ named =>
      rcases named with named | named <;> exact absurd (other named) (by decide)

/-- A request that is refused or only asks leaves the server as it is and one message to send. -/
theorem accept_eq_send
    (passive : (∃ e, (r.begun files clock s).1 = .error e) ∨ r.command ∈ inquiries) :
    ∃ content, r.accept files clock s = (s, [.send content]) := by
  rcases passive with ⟨e, refused⟩ | asks
  · exact ⟨_, accept_of_refused refused⟩
  · obtain ⟨same, content, send⟩ := (accepted_accept files clock r s).eq_of_inquiry asks
    exact ⟨content, Prod.ext same send⟩

end Request

/-! ### The worker alone -/

namespace Instant

/-- Two instants at which the worker has the same before it. What was sent, and what the request
loop has left to do, may be different. -/
structure Alike (i j : Instant) : Prop where
  program : j.server.program = i.server.program
  owned : j.server.owned = i.server.owned
  taken : j.taken = i.taken

theorem work?_of_workerStep? {i : Instant} {p : Program} {t : Server}
    (launched : i.server.program = some p) (between : p.worker ≠ .turning)
    (worked : i.server.workerStep? = some t) : i.work? = some ⟨⟨t, i.pending⟩, i.taken⟩ := by
  rw [work?_of_not_turning launched between, worked]
  rfl

/-- The worker does the same at either of them. -/
theorem Alike.work? {i j k : Instant} (alike : Alike i j) (worked : i.work? = some k) :
    ∃ l, j.work? = some l ∧ Alike k l := by
  cases made_of_work? worked with
  | @woken p launched waiting woken =>
      have launched' := alike.program.trans launched
      have step : j.server.workerStep? = some { j.server with
          program := some { p with worker := .turning, wakes := p.wakes - 1 } } := by
        simp [Server.workerStep?, launched', waiting, woken]
      refine ⟨_, work?_of_workerStep? launched' (by simp [waiting]) step, ?_⟩
      exact ⟨rfl, alike.owned, alike.taken⟩
  | looked launched turning fresh =>
      refine ⟨_, work?_of_turning (alike.program.trans launched) turning
        (alike.taken.trans fresh), ?_⟩
      exact ⟨rfl, alike.owned, rfl⟩
  | ended launched turning there =>
      refine ⟨_, work?_of_taken (alike.program.trans launched) turning
        (alike.taken.trans there), ?_⟩
      refine ⟨?_, ?_, rfl⟩ <;> simp only [Server.endTurn_eq, alike.owned]
  | @reported p launched reporting =>
      have launched' := alike.program.trans launched
      have step : j.server.workerStep? = some { j.server with
          program := some { p with worker := .waiting } } := by
        simp [Server.workerStep?, launched', reporting]
      refine ⟨_, work?_of_workerStep? launched' (by simp [reporting]) step, ?_⟩
      exact ⟨rfl, alike.owned, alike.taken⟩
  | @told p content rest launched reporting =>
      have launched' := alike.program.trans launched
      have step : j.server.workerStep? = some { j.server.send content with
          program := some { p with worker := .reporting rest } } := by
        simp [Server.workerStep?, launched', reporting]
      refine ⟨_, work?_of_workerStep? launched' (by simp [reporting]) step, ?_⟩
      exact ⟨rfl, alike.owned, alike.taken⟩

end Instant

/-- Whether all that is left to do is to send messages. -/
def OnlySends (actions : List Action) : Prop :=
  ∀ action ∈ actions, ∃ content, action = .send content

/-- While the request loop only sends messages, it changes nothing but the wire, and the worker does
what it would do alone. The induction is on the history. -/
theorem History.worker_alone {i j k : Instant} {past : List Happening}
    (history : History i past k) (goesOn : ∀ h ∈ past, h.move.GoesOn)
    (sends : OnlySends i.pending) (alike : Instant.Alike i j) :
    (∀ h ∈ past, h.party = .loop →
      h.after.server = { h.before.server with wire := h.after.server.wire }) ∧
    ∃ worked l, History j worked l ∧
      worked.map (·.move) = (past.filter (·.party = .worker)).map (·.move) ∧
      Instant.Alike k l := by
  induction history generalizing j with
  | nothing i => exact ⟨by simp, [], j, .nothing j, rfl, alike⟩
  | @next i m k move past made rest ih =>
      have later : ∀ h ∈ past, h.move.GoesOn := fun h mem => goesOn h (List.mem_cons_of_mem _ mem)
      have step := Instant.made_of_move? made
      rcases goesOn _ List.mem_cons_self with rfl | rfl
      · -- The request loop sends a message.
        cases step with
        | @performed action actions pending ready =>
            rw [OnlySends, pending, List.forall_mem_cons] at sends
            obtain ⟨⟨content, rfl⟩, sends⟩ := sends
            obtain ⟨own, worked, l, history', moves, alike'⟩ := ih later sends (j := j)
              ⟨alike.program, alike.owned, alike.taken⟩
            refine ⟨List.forall_mem_cons.2 ⟨fun _ => rfl, own⟩, worked, l, history', ?_, alike'⟩
            rw [moves]
            rfl
      · -- The worker moves, and alone it does too.
        obtain ⟨n, worked', alike'⟩ := alike.work? made
        have made' : j.move? .works = some n := worked'
        have pending : m.pending = i.pending := by cases step <;> rfl
        obtain ⟨own, worked, l, history', moves, alike'⟩ := ih later (by rwa [pending]) alike'
        refine ⟨List.forall_mem_cons.2 ⟨nofun, own⟩, _, l, .next made' history', ?_, alike'⟩
        rw [List.map_cons, moves]
        rfl

/-! ### Handling -/

theorem Handling.of_history? {around : Surroundings} {r : Request} {i k : Instant}
    {moves : List Move} {past : List Happening}
    (made : i.history? (.accepts around r :: moves) = some (past, k))
    (goesOn : ∀ move ∈ moves, move.GoesOn) (done : k.pending = []) :
    Handling around r i past k := by
  obtain ⟨j, begun, made⟩ := Option.bind_eq_some_iff.1 made
  obtain ⟨⟨later, l⟩, others, made⟩ := Option.bind_eq_some_iff.1 made
  cases made
  refine .intro begun (Instant.history_of_history? others) (fun h mem => ?_) done
  refine goesOn _ ?_
  rw [← Instant.map_move_of_history? others]
  exact List.mem_map_of_mem mem

/-- A request is answered by failure. -/
def Request.FailsIn (r : Request) (past : List Happening) : Prop :=
  ∃ message, .failure r.seq r.command message ∈ sentBy .loop past

/-- Exactly a refused request is answered by failure. -/
theorem Handling.failsIn_iff {around : Surroundings} {r : Request} {i k : Instant}
    {past : List Happening} (handling : Handling around r i past k) :
    r.FailsIn past ↔ ∃ e, (r.begun around.files around.clock i.server).1 = .error e := by
  obtain ⟨success, message, body, answered⟩ := handling.exists_answered
  obtain ⟨events, sent, all⟩ := answered.first
  rw [← answered.failure_iff]
  constructor
  · rintro ⟨text, mem⟩
    rw [sent, List.mem_cons] at mem
    rcases mem with answer | event
    · exact (Content.response.inj answer).2.1.symm
    · obtain ⟨name, body', eq⟩ := all _ event
      cases eq
  · rintro rfl
    obtain ⟨e, refused⟩ := answered.failure_iff.1 rfl
    obtain ⟨rfl, rfl⟩ := answered.error refused
    exact ⟨e.message, by rw [sent]; exact List.mem_cons_self⟩

/-- Handling a request does nothing to the server. -/
structure LeavesServer (i : Instant) (past : List Happening) (k : Instant) : Prop where
  /-- No move of the request loop changes anything but the wire. -/
  own : ∀ h ∈ past, h.party = .loop →
    h.after.server = { h.before.server with wire := h.after.server.wire }
  /-- The worker alone, with the same moves, makes the same of the program. -/
  alone : ∃ worked l, History i worked l ∧
    worked.map (·.move) = (past.filter (·.party = .worker)).map (·.move) ∧
    k.server = { l.server with wire := k.server.wire } ∧ k.taken = l.taken
  /-- If the worker does not move meanwhile, the server is as it was. -/
  undisturbed : (∀ h ∈ past, h.party = .loop) →
    k.server = { i.server with wire := k.server.wire } ∧ k.taken = i.taken

/-- A request that is answered by failure, or that only asks what there is, leaves the server as it
is. What changes meanwhile is the work of the worker. -/
theorem Handling.leaves_server {around : Surroundings} {r : Request} {i k : Instant}
    {past : List Happening} (handling : Handling around r i past k)
    (passive : r.FailsIn past ∨ r.command ∈ Request.inquiries) : LeavesServer i past k := by
  have quiet := passive.imp_left handling.failsIn_iff.1
  obtain ⟨content, accepted⟩ := Request.accept_eq_send quiet
  obtain ⟨begun, history, goesOn, -⟩ := handling
  obtain ⟨-, rfl⟩ := Instant.eq_of_accepts begun
  rw [accepted] at history ⊢
  have sends : OnlySends [.send content] := fun action mem => ⟨content, List.mem_singleton.1 mem⟩
  obtain ⟨own, worked, l, alone, moves, alike⟩ :=
    history.worker_alone goesOn sends (j := i) ⟨rfl, rfl, rfl⟩
  have same : k.server = { l.server with wire := k.server.wire } := by
    simp only [alike.program, alike.owned]
  refine ⟨List.forall_mem_cons.2 ⟨fun _ => rfl, own⟩, ⟨worked, l, alone, moves, same,
    alike.taken.symm⟩, fun loop => ?_⟩
  have still : worked = [] := by
    rw [List.filter_eq_nil_iff.2, List.map_nil, List.map_eq_nil_iff] at moves
    · exact moves
    · intro h mem
      simp [(List.forall_mem_cons.1 loop).2 h mem]
  subst still
  cases alone
  exact ⟨same, alike.taken.symm⟩

/-- A guest that does not end by itself. -/
def idleRound : Surroundings where
  files := fun _ => .ok (Text.encode "10 nop\n11 jmp 10\n")

/-- Lets it run, and the worker wakes up. -/
def idling : List Move :=
  [.accepts idleRound ⟨1, "launch", .object [("program", .string "guest"),
      ("initialBatchSize", .number (.natural 4))]⟩, .performs, .performs,
    .accepts idleRound ⟨2, "continue", .null⟩, .performs, .performs, .performs, .works]

/-- Asks to toggle a breakpoint that is not there. -/
def toggleNothing : Request := ⟨3, "toggleBreakpoint", .object [("address", .string "0x10")]⟩

/-- The worker does its first turn while the answer is due, and the answer is all that is added. -/
theorem leaves_server_of_no_breakpoint :
    ∃ earlier i past k, History { server := {} } earlier i ∧
      Handling idleRound toggleNothing i past k ∧ toggleNothing.FailsIn past ∧
      (past.flatMap (·.attempts)).length = 4 ∧ LeavesServer i past k := by
  have ran : (({ server := {} } : Instant).history? idling).any (fun x =>
      !(toggleNothing.begun idleRound.files idleRound.clock x.2.server).1.isOk &&
        (x.2.history? [.accepts idleRound toggleNothing, .works, .performs, .works]).any
          fun y => decide ((y.1.flatMap (·.attempts)).length = 4 ∧ y.2.pending.length = 0))
      = true := by
    decide +kernel
  obtain ⟨⟨earlier, i⟩, reached, ran⟩ := (Option.any_eq_true _ _).1 ran
  obtain ⟨refused, ran⟩ := Bool.and_eq_true_iff.1 ran
  obtain ⟨⟨past, k⟩, made, ran⟩ := (Option.any_eq_true _ _).1 ran
  obtain ⟨attempts, done⟩ := of_decide_eq_true ran
  have handling : Handling idleRound toggleNothing i past k :=
    .of_history? made (by simp [Move.GoesOn]) (List.length_eq_zero_iff.1 done)
  have fails : toggleNothing.FailsIn past := by
    refine handling.failsIn_iff.2 ?_
    cases begun : (toggleNothing.begun idleRound.files idleRound.clock i.server).1 with
    | error e => exact ⟨e, rfl⟩
    | ok => simp [begun, Except.isOk, Except.toBool] at refused
  exact ⟨earlier, i, past, k, Instant.history_of_history? reached, handling, fails, attempts,
    handling.leaves_server (.inl fails)⟩

end GuestDebugger.Adapter
