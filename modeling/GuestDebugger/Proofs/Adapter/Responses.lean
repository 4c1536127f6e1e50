import GuestDebugger.Proofs.Adapter.Reporting

/-! # Responses

A request is answered by the first message that is sent while it is handled, and all further ones
are events. The worker may proceed in between, but it is not the worker that answers. -/

namespace GuestDebugger.Adapter

theorem Content.kind_of_isReport {c : Content} (report : c.isReport = true) : c.kind = "event" := by
  cases c with
  | event => rfl
  | request | response => cases report

theorem kind_of_mem_passedOn {text : String} {c : Content}
    (mem : c ∈ if text.isEmpty then [] else [outputEvent text]) : c.kind = "event" := by
  split at mem
  · cases mem
  · rw [List.mem_singleton.1 mem]
    rfl

/-- Whether all that actions send is events. -/
def Eventful (actions : List Action) : Prop := ∀ c, .send c ∈ actions → c.kind = "event"

namespace Eventful

theorem head {action : Action} {rest : List Action} (eventful : Eventful (action :: rest)) :
    Eventful [action] := by
  intro c mem
  refine eventful c ?_
  rw [List.mem_singleton.1 mem]
  exact List.mem_cons_self

theorem tail {action : Action} {rest : List Action} (eventful : Eventful (action :: rest)) :
    Eventful rest :=
  fun c mem => eventful c (List.mem_cons_of_mem action mem)

theorem append {first second : List Action} (before : Eventful first) (after : Eventful second) :
    Eventful (first ++ second) := by
  intro c mem
  rcases List.mem_append.1 mem with old | new
  · exact before c old
  · exact after c new

theorem reports {contents : List Content} (reports : ∀ c ∈ contents, c.isReport = true) :
    Eventful (contents.map .send) := by
  intro c mem
  obtain ⟨content, there, eq⟩ := List.mem_map.1 mem
  cases eq
  exact Content.kind_of_isReport (reports _ there)

theorem shutdownActions (s : Server) : Eventful s.shutdownActions := by
  simp only [Server.shutdownActions, Eventful]
  split <;> simp

theorem afterConfiguration (p : Program) : Eventful (Request.afterConfiguration p) := by
  simp only [Request.afterConfiguration]
  split
  · simp [Eventful, stoppedEvent, Content.kind]
  · simp [Eventful, Request.resume]

theorem afterRunTo (session : Session Machine) : Eventful (Request.afterRunTo session) := by
  simp only [Request.afterRunTo]
  split
  · exact reports fun c => isReport_of_mem_stopReport
  · simp [Eventful, Request.resume]

end Eventful

namespace Request

variable {r : Request} {s t : Server} {actions : List Action}

/-- Behind its response, a request has events to send and nothing else. -/
theorem Accepted.eventful_tail (accepted : r.Accepted s t actions) : Eventful actions.tail := by
  cases accepted with
  | refused | answered | replaced | toggled => simp [Eventful]
  | launched => simp [Eventful, Content.kind]
  | configured => exact .afterConfiguration _
  | ranTo => exact .afterRunTo _
  | resumed => simp [Eventful, resume]
  | stepped | paused => simp [Eventful]
  | disconnected => exact .shutdownActions s

/-- What a response tells of how the critical section of its request ended. -/
structure TellsEnd (ended : Except RequestError Unit) (success : Bool) (message : Option String)
    (body : Option Json) : Prop where
  /-- Exactly a refused request is answered by failure. -/
  failure_iff : success = false ↔ ∃ e, ended = .error e
  /-- A failure tells the error and nothing else. -/
  error {e : RequestError} : ended = .error e → message = some e.message ∧ body = none

theorem tellsEnd_error (e : RequestError) : TellsEnd (.error e) false (some e.message) none where
  failure_iff := iff_of_true rfl ⟨e, rfl⟩
  error refused := by
    cases refused
    exact ⟨rfl, rfl⟩

theorem tellsEnd_success (body : Option Json) : TellsEnd (.ok ()) true none body where
  failure_iff := iff_of_false nofun nofun
  error refused := by cases refused

/-- The first thing to do is to answer: by the error of a request that is refused, and by success if
it is not. -/
theorem exists_answer (files : Files) (clock : Clock) (r : Request) (s : Server) :
    ∃ success message body rest,
      (r.accept files clock s).2 =
        .send (.response r.seq success r.command message body) :: rest ∧
      Eventful rest ∧ TellsEnd (r.begun files clock s).1 success message body := by
  have comes := comesTo_begun files clock r s
  rw [accept]
  generalize r.begun files clock s = x at comes ⊢
  cases comes with
  | refused e => exact ⟨_, _, _, [], rfl, by simp [Eventful], tellsEnd_error e⟩
  | done accepted succeeds =>
      obtain ⟨body, rest, rfl⟩ := succeeds
      exact ⟨_, _, _, rest, rfl, accepted.eventful_tail, tellsEnd_success body⟩

end Request

/-! ### Actions -/

namespace Server

variable {s : Server}

theorem eventful_perform (s : Server) (action : Action) : Eventful (s.perform action).2 := by
  cases action with
  | singleStep =>
      simp only [perform]
      split
      · simp [Eventful]
      · exact .reports fun c => isReport_of_mem_stepReport
  | _ => simp [perform, Eventful]

/-- An action sends the message that it is to send, or guest output, or nothing. -/
theorem exists_sent_perform {action : Action} (eventful : Eventful [action]) :
    ∃ new, (s.perform action).1.wire.contents = s.wire.contents ++ new ∧
      ∀ c ∈ new, c.kind = "event" := by
  cases action with
  | send content =>
      refine ⟨[content], contents_send _ _, fun c mem => ?_⟩
      rw [List.mem_singleton.1 mem]
      exact eventful content List.mem_cons_self
  | singleStep =>
      cases launched : s.program with
      | none => exact ⟨[], by simp [perform, launched], by simp⟩
      | some p =>
          simp only [perform, launched, sendOutput_eq]
          exact ⟨_, contents_passOn _ _, fun c => kind_of_mem_passedOn⟩
  | _ => exact ⟨[], (List.append_nil _).symm, by simp⟩

end Server

/-- The worker sends guest output and reports. -/
theorem Instant.Made.exists_sent_works {i k : Instant} (made : Made i .works k)
    (consistent : i.Consistent) :
    ∃ new, k.server.wire.contents = i.server.wire.contents ++ new ∧
      ∀ c ∈ new, c.kind = "event" := by
  cases made with
  | woken | looked | reported => exact ⟨[], (List.append_nil _).symm, by simp⟩
  | ended =>
      rw [Server.endTurn_eq]
      exact ⟨_, contents_passOn _ _, fun c => kind_of_mem_passedOn⟩
  | @told p content rest launched phase =>
      refine ⟨[content], contents_send _ content, fun c mem => ?_⟩
      rw [List.mem_singleton.1 mem]
      have all := (consistent.program p launched).reports _ phase
      exact Content.kind_of_isReport (all content List.mem_cons_self)

/-! ### Handling a request -/

/-- The request loop goes on with a request while the worker may proceed. -/
def Move.GoesOn (move : Move) : Prop := move = .performs ∨ move = .works

/-- The request loop handles a request from its beginning to its end. -/
inductive Handling (around : Surroundings) (r : Request) (i : Instant) :
    List Happening → Instant → Prop
  | intro {j k : Instant} {past : List Happening} (begun : i.move? (.accepts around r) = some j)
      (history : History j past k) (goesOn : ∀ h ∈ past, h.move.GoesOn) (done : k.pending = []) :
      Handling around r i (⟨i, .accepts around r, j⟩ :: past) k

section

variable {i k : Instant} {past : List Happening}

theorem sentBy_cons_accepts {around : Surroundings} {r : Request}
    (begun : i.move? (.accepts around r) = some k) :
    sentBy .loop (⟨i, .accepts around r, k⟩ :: past) = sentBy .loop past := by
  obtain ⟨-, rfl⟩ := Instant.eq_of_accepts begun
  have accepted := Request.accepted_accept around.files around.clock r i.server
  have wire : (r.accept around.files around.clock i.server).1.wire.contents =
      i.server.wire.contents ++ [] := by
    rw [accepted.answered_first.1, List.append_nil]
  rw [sentBy_cons, Happening.sent_of_contents_eq wire, ite_self, List.nil_append]

theorem sentBy_cons_performs :
    sentBy .loop (⟨i, .performs, k⟩ :: past) =
      (⟨i, .performs, k⟩ : Happening).sent ++ sentBy .loop past := by
  simp only [sentBy_cons, Happening.party, Move.party, if_true]

theorem sentBy_cons_works :
    sentBy .loop (⟨i, .works, k⟩ :: past) = sentBy .loop past := by
  simp only [sentBy_cons, Happening.party, Move.party, reduceCtorEq, if_false, List.nil_append]

/-- With events left to send, the request loop sends events. -/
theorem History.events (history : History i past k) (goesOn : ∀ h ∈ past, h.move.GoesOn)
    (eventful : Eventful i.pending) : ∀ c ∈ sentBy .loop past, c.kind = "event" := by
  induction history with
  | nothing => simp [sentBy]
  | @next i j k move past made _ ih =>
      have later : ∀ h ∈ past, h.move.GoesOn := fun h mem => goesOn h (List.mem_cons_of_mem _ mem)
      have step := Instant.made_of_move? made
      intro c mem
      rcases goesOn _ List.mem_cons_self with rfl | rfl
      · cases step with
        | @performed action rest pending ready =>
            rw [pending] at eventful
            obtain ⟨new, wire, events⟩ := Server.exists_sent_perform (s := i.server) eventful.head
            rw [sentBy_cons_performs, Happening.sent_of_contents_eq wire] at mem
            rcases List.mem_append.1 mem with sent | sent
            · exact events c sent
            · exact ih later ((Server.eventful_perform _ _).append eventful.tail) c sent
      · rw [sentBy_cons_works] at mem
        have pending : j.pending = i.pending := by cases step <;> rfl
        exact ih later (by rwa [pending]) c mem

/-- Of the messages that the request loop sends, the answer is the first one, and the others are
events. -/
theorem History.exists_events (history : History i past k) (goesOn : ∀ h ∈ past, h.move.GoesOn)
    {answer : Content} {rest : List Action} (pending : i.pending = .send answer :: rest)
    (eventful : Eventful rest) (done : k.pending = []) :
    ∃ events, sentBy .loop past = answer :: events ∧ ∀ c ∈ events, c.kind = "event" := by
  induction history with
  | nothing =>
      rw [pending] at done
      cases done
  | @next i j k move past made others ih =>
      have later : ∀ h ∈ past, h.move.GoesOn := fun h mem => goesOn h (List.mem_cons_of_mem _ mem)
      have step := Instant.made_of_move? made
      rcases goesOn _ List.mem_cons_self with rfl | rfl
      · cases step with
        | @performed action actions there ready =>
            obtain ⟨rfl, rfl⟩ := List.cons.inj (there.symm.trans pending)
            refine ⟨sentBy .loop past, ?_, others.events later eventful⟩
            rw [sentBy_cons_performs, Happening.sent_of_contents_eq (contents_send _ _)]
            rfl
      · rw [sentBy_cons_works]
        have same : j.pending = i.pending := by cases step <;> rfl
        exact ih later (same.trans pending) done

/-- The worker of a session sends events. -/
theorem History.worker_events (history : History i past k) (consistent : i.Consistent) :
    ∀ c ∈ sentBy .worker past, c.kind = "event" := by
  induction history with
  | nothing => simp [sentBy]
  | @next i j k move past made _ ih =>
      have step := Instant.made_of_move? made
      intro c mem
      rw [sentBy_cons, List.mem_append] at mem
      rcases mem with sent | sent
      · split at sent
        · rename_i works
          obtain rfl : move = .works := by
            cases move with
            | works => rfl
            | accepts | finishes | performs => cases works
          obtain ⟨new, wire, events⟩ := step.exists_sent_works consistent
          rw [Happening.sent_of_contents_eq wire] at sent
          exact events c sent
        · cases sent
      · exact ih (step.consistent consistent) c sent

end

/-- What is sent in answer to a request whose critical section ended in some way. -/
structure Request.Answered (r : Request) (ended : Except RequestError Unit) (success : Bool)
    (message : Option String) (body : Option Json) (sent : List Content) : Prop
    extends TellsEnd ended success message body where
  /-- The first message is a response with the number and the command of the request, and events
  follow. -/
  first : ∃ events, sent = .response r.seq success r.command message body :: events ∧
    ∀ c ∈ events, ∃ name body, c = .event name body
  /-- There is no other response. -/
  once : sent.filter (·.kind = "response") =
    [.response r.seq success r.command message body]

theorem Content.exists_of_kind_eq_event {c : Content} (event : c.kind = "event") :
    ∃ name body, c = .event name body := by
  cases c with
  | event name body => exact ⟨name, body, rfl⟩
  | request | response => simp [kind] at event

theorem filter_response {answer : Content} {events : List Content}
    (response : answer.kind = "response") (all : ∀ c ∈ events, c.kind = "event") :
    (answer :: events).filter (·.kind = "response") = [answer] := by
  have others : events.filter (·.kind = "response") = [] := by
    refine List.filter_eq_nil_iff.2 fun c mem => ?_
    rw [all c mem]
    decide
  rw [List.filter_cons_of_pos (by simp [response]), others]

/-- Whenever the worker proceeds, a request is answered once and first. -/
theorem Handling.exists_answered {around : Surroundings} {r : Request} {i k : Instant}
    {past : List Happening} (handling : Handling around r i past k) :
    ∃ success message body,
      r.Answered (r.begun around.files around.clock i.server).1 success message body
        (sentBy .loop past) := by
  obtain ⟨begun, history, goesOn, done⟩ := handling
  rw [sentBy_cons_accepts begun]
  obtain ⟨-, rfl⟩ := Instant.eq_of_accepts begun
  obtain ⟨success, message, body, rest, pending, eventful, tells⟩ :=
    r.exists_answer around.files around.clock i.server
  obtain ⟨events, sent, all⟩ := history.exists_events goesOn pending eventful done
  refine ⟨success, message, body, tells, ⟨events, sent, fun c mem => ?_⟩, ?_⟩
  · exact Content.exists_of_kind_eq_event (all c mem)
  · rw [sent, filter_response rfl all]

/-! ### Handling as a whole -/

/-- Handling a request as a whole is one of the ways to handle it. -/
theorem Server.Handles.exists_handling {around : Surroundings} {s t : Server} {m : Message}
    {command : String} {arguments : Option Json} {goesOn : Bool}
    (handles : s.Handles around m goesOn t) (asks : m.content = .request command arguments) :
    (goesOn = false ↔ command = "disconnect") ∧
      ∃ past, Handling around ⟨m.seq, command, arguments.getD .null⟩ { server := s } past
        { server := t } := by
  obtain ⟨fuel, handled⟩ := handles
  have handled := handled fuel (Nat.le_refl fuel)
  simp only [Server.handle, Message.request?, asks] at handled
  obtain ⟨u, done, eq⟩ := Option.map_eq_some_iff.1 handled
  cases eq
  have run : Moment.Runs Move.GoesOn _ _ := Moment.runs_performAll (.inl rfl) (.inr rfl) done
  obtain ⟨past, history, all⟩ := Instant.history_of_runs run
  exact ⟨by simp [Request.goesOn], _, .intro rfl history all rfl⟩

/-- How a server answers a message that makes a request. -/
structure Server.AnswersOnce (around : Surroundings) (s : Server) (m : Message) (r : Request) :
    Prop where
  /-- The handler returns. -/
  returns : ∃ goesOn t, s.Handles around m goesOn t
  /-- No more messages are handled exactly after a request to disconnect. -/
  goesOn_iff {goesOn : Bool} {t : Server} : s.Handles around m goesOn t →
    (goesOn = false ↔ r.command = "disconnect")
  /-- Handling the request as a whole is one of the ways to handle it. -/
  handling {goesOn : Bool} {t : Server} : s.Handles around m goesOn t →
    ∃ past, Handling around r { server := s } past { server := t }
  /-- In whatever way the request is handled, it is answered once and first, by failure exactly if
  its handler ends with an error. -/
  answered {i k : Instant} {past : List Happening} : i.server = s → Handling around r i past k →
    ∃ success message body, r.Answered (r.begun around.files around.clock s).1 success message body
      (sentBy .loop past)
  /-- Meanwhile the worker of a session sends no response. -/
  worker {i k : Instant} {earlier past : List Happening} : i.server = s →
    History { server := {} } earlier i → Handling around r i past k →
      ∀ c ∈ sentBy .worker past, c.kind = "event"

/-- Every request is answered once, whatever it asks for and whatever state the server is in. The
response has the number and the command of the message. -/
theorem Server.answersOnce {m : Message} {command : String} {arguments : Option Json}
    (asks : m.content = .request command arguments) (around : Surroundings) (s : Server) :
    s.AnswersOnce around m ⟨m.seq, command, arguments.getD .null⟩ where
  returns := s.exists_handles around m
  goesOn_iff handles := (handles.exists_handling asks).1
  handling handles := (handles.exists_handling asks).2
  answered there handling := by
    rw [← there]
    exact handling.exists_answered
  worker _ earlier := by
    rintro ⟨begun, history, -, -⟩
    exact (History.next begun history).worker_events (earlier.consistent Instant.consistent_start)

/-- A request with an unknown name and no arguments is refused, and answered once. -/
theorem Server.answersOnce_of_unknown :
    let m : Message := { seq := 7, kind := "request", content := .request "fly" none }
    let r : Request := ⟨7, "fly", .null⟩
    m.content = .request "fly" none ∧
      (r.begun (fun _ => .error .notFound) {} {}).1 = .error (.unsupported "fly") ∧
      ({} : Server).AnswersOnce { files := fun _ => .error .notFound } m r := by
  intro m r
  have asks : m.content = .request "fly" none := rfl
  exact ⟨asks, rfl, Server.answersOnce asks _ _⟩

end GuestDebugger.Adapter
