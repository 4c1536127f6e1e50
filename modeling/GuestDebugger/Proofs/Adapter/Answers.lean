import GuestDebugger.Proofs.Adapter.Completion
import GuestDebugger.Proofs.Adapter.Interleaving
import GuestDebugger.Proofs.Adapter.Messages

/-! # What is answered

A message is answered if its fields name a command, and passed over if they do not. The name of its
kind plays no part in that. -/

namespace GuestDebugger.Adapter

/-! ### What is sent stays sent -/

namespace Server

/-- Everything that one server has sent was sent, in the same order, when another one is reached. -/
def SentBefore (s t : Server) : Prop := s.wire.messages.toList <+: t.wire.messages.toList

variable {s t u : Server}

theorem SentBefore.of_wire_eq (same : t.wire = s.wire) : s.SentBefore t := by
  simp [SentBefore, same]

theorem SentBefore.refl (s : Server) : s.SentBefore s := .of_wire_eq rfl

theorem SentBefore.trans (first : s.SentBefore t) (second : t.SentBefore u) : s.SentBefore u :=
  List.IsPrefix.trans first second

theorem sentBefore_send (s : Server) (content : Content) : s.SentBefore (s.send content) := by
  simp [SentBefore, send, Wire.send, Wire.takeNumber, Wire.put]

theorem sentBefore_sendOutput (s : Server) (p : Program) : s.SentBefore (s.sendOutput p).1 := by
  simp only [sendOutput]
  split
  · exact .refl s
  · exact sentBefore_send s _

theorem sentBefore_perform (s : Server) (action : Action) :
    s.SentBefore (s.perform action).1 := by
  cases action with
  | send content => exact sentBefore_send s content
  | singleStep =>
      simp only [perform]
      split
      · exact .refl s
      · exact sentBefore_sendOutput s _
  | _ => exact .refl s

theorem sentBefore_workerStep? (worked : s.workerStep? = some t) : s.SentBefore t := by
  obtain ⟨p, -, worked⟩ := Option.bind_eq_some_iff.1 worked
  split at worked
  · split at worked
    · cases worked
    · cases worked
      exact .refl s
  · cases worked
    exact sentBefore_sendOutput s _
  · cases worked
    exact .refl s
  · cases worked
    exact sentBefore_send s _

end Server

/-! ### Requests are answered first -/

namespace Request

/-- A response to a request. -/
inductive Answer (r : Request) : Content → Prop
  | success (body : Option Json) : Answer r (.success r.seq r.command body)
  | failure (message : String) : Answer r (.failure r.seq r.command message)

variable {r : Request} {s t : Server} {actions : List Action}

/-- The critical section of a request sends nothing, and the response is what comes next. -/
theorem Accepted.answered_first (accepted : Accepted r s t actions) :
    t.wire = s.wire ∧ ∃ answer rest, actions = .send answer :: rest ∧ r.Answer answer := by
  cases accepted with
  | refused => exact ⟨rfl, _, _, rfl, .failure _⟩
  | _ => exact ⟨rfl, _, _, rfl, .success _⟩

end Request

/-! ### Runs -/

namespace Moment

variable {m n : Moment} {move : Move} {allowed : Move → Prop}

theorem sentBefore_of_move? (made : m.move? move = some n) : m.server.SentBefore n.server := by
  cases move with
  | accepts around r =>
      have accepted := Request.accepted_accept around.files around.clock r m.server
      simp only [move?] at made
      split at made
      · cases made
        exact .of_wire_eq accepted.answered_first.1
      · cases made
  | finishes =>
      simp only [move?] at made
      split at made
      · cases made
        exact .refl m.server
      · cases made
  | performs =>
      obtain ⟨action, rest, -, rfl, -⟩ := perform?_eq_some made
      exact Server.sentBefore_perform m.server action
  | works =>
      obtain ⟨s, worked, eq⟩ := Option.map_eq_some_iff.1 made
      cases eq
      exact Server.sentBefore_workerStep? worked

/-- Whatever happens, messages on the wire stay there, and others come behind them. -/
theorem Runs.sentBefore (run : Runs allowed m n) : m.server.SentBefore n.server := by
  induction run with
  | refl => exact .refl m.server
  | tail _ step ih =>
      obtain ⟨move, -, made⟩ := step
      exact ih.trans (sentBefore_of_move? made)

end Moment

namespace Server

variable {s t : Server} {around : Surroundings} {m : Message} {goesOn : Bool}

theorem Performs.sentBefore {actions : List Action} (performs : s.Performs actions t) :
    s.SentBefore t := by
  obtain ⟨least, performs⟩ := performs
  have run : Moment.Runs (fun _ => True) ⟨s, actions⟩ ⟨t, []⟩ :=
    Moment.runs_performAll trivial trivial (performs least (Nat.le_refl least))
  exact run.sentBefore

/-- Handling a request begins by sending a response to it. -/
theorem Handles.answered_first {r : Request} (handles : s.Handles around m goesOn t)
    (asks : m.request? = some r) : ∃ answer, r.Answer answer ∧ (s.send answer).SentBefore t := by
  have accepted := Request.accepted_accept around.files around.clock r s
  obtain ⟨wire, answer, rest, actions, isAnswer⟩ := accepted.answered_first
  obtain ⟨u, performs⟩ := accepted.exists_performs
  obtain ⟨-, rfl⟩ := Prod.mk.inj (handles.unique (handles_of_performs asks performs))
  rw [actions, Server.performs_cons_iff (by simp)] at performs
  have sent := performs.sentBefore
  simp only [perform, SentBefore, send, wire] at sent
  exact ⟨answer, isAnswer, sent⟩

theorem not_sentBefore_of_send (s : Server) (content : Content) :
    ¬ (s.send content).SentBefore s := by
  intro sentBefore
  have shorter := sentBefore.length_le
  simp only [send, Wire.send, Wire.takeNumber, Wire.put, Array.toList_push, List.length_append,
    List.length_singleton] at shorter
  omega

end Server

/-! ### Messages that are passed over -/

/-- The message changes nothing, whatever state it is handled in, and others are handled after
it. -/
def Message.Ignored (m : Message) : Prop :=
  ∀ (around : Surroundings) (s : Server), s.Handles around m true s

namespace Message

variable {m : Message}

theorem request?_eq_none_iff : m.request? = none ↔ m.content.kind ≠ "request" := by
  simp only [request?]
  cases m.content <;> simp [Content.kind]

theorem ignored_iff_request?_eq_none : m.Ignored ↔ m.request? = none := by
  constructor
  · intro ignored
    cases asks : m.request? with
    | none => rfl
    | some r =>
        obtain ⟨answer, -, sent⟩ :=
          (ignored { files := fun _ => .error .notFound } {}).answered_first asks
        exact absurd sent (Server.not_sentBefore_of_send {} answer)
  · intro asksNothing around s
    refine ⟨0, fun fuel _ => ?_⟩
    simp only [Server.handle, asksNothing]

/-- A message that was read is passed over exactly if its fields name no command. If they do, it is
answered like any request, whatever the name of its kind. -/
theorem ignored_iff {input rest : List UInt8}
    (read : Frame.readMessage input = (.ok (some m), rest)) :
    ∃ body fields, Frame.readBody input = (.ok (some body), rest) ∧ Json.ReadsObject body fields ∧
      occurrence "type" fields = .once (.string m.kind) ∧
      (m.Ignored ↔ ¬ Content.NamesCommand fields) ∧
      (Content.NamesCommand fields → ∃ r, m.request? = some r ∧
        ∀ (around : Surroundings) (s : Server), ∃ goesOn t, s.Handles around m goesOn t ∧
          ∃ answer, r.Answer answer ∧ (s.send answer).SentBefore t) := by
  simp only [Frame.readMessage] at read
  split at read
  · cases read
  · cases read
  · rename_i body rest bodyRead
    split at read
    · rename_i parsed
      cases read
      obtain ⟨fields, object, -, type, content⟩ := exists_fields_of_parse parsed
      have asRequest := Content.kind_eq_request_iff content
      refine ⟨body, fields, bodyRead, object, type, ?_, ?_⟩
      · rw [ignored_iff_request?_eq_none, request?_eq_none_iff, ne_eq, asRequest]
      · intro names
        cases asks : m.request? with
        | none => exact absurd (asRequest.2 names) (request?_eq_none_iff.1 asks)
        | some r =>
            refine ⟨r, rfl, fun around s => ?_⟩
            obtain ⟨goesOn, t, handles⟩ := s.exists_handles around m
            exact ⟨goesOn, t, handles, handles.answered_first asks⟩
    · cases read

/-- What is checked of a message while it is read holds of the message that was read. -/
theorem exists_of_readMessage (input : List UInt8) (P : Message → List UInt8 → Bool)
    (checked : (match Frame.readMessage input with
      | (.ok (some m), rest) => P m rest
      | _ => false) = true) :
    ∃ m rest, Frame.readMessage input = (.ok (some m), rest) ∧ P m rest = true := by
  split at checked
  · rename_i m rest read
    exact ⟨m, rest, read, checked⟩
  · cases checked

/-- A message with the shape of an event is passed over. -/
theorem ignored_iff_of_event :
    let input := Text.encode ("Content-Length: 50\r\n\r\n" ++
      "\x7b\"seq\":1,\"type\":\"event\",\"event\":\"exited\",\"body\":4\x7d")
    ∃ m, Frame.readMessage input = (.ok (some m), []) ∧ m.kind = "event" ∧
      ∃ body fields, Frame.readBody input = (.ok (some body), []) ∧
        Json.ReadsObject body fields ∧ occurrence "type" fields = .once (.string m.kind) ∧
        (m.Ignored ↔ ¬ Content.NamesCommand fields) ∧
        (Content.NamesCommand fields → ∃ r, m.request? = some r ∧
          ∀ (around : Surroundings) (s : Server), ∃ goesOn t, s.Handles around m goesOn t ∧
            ∃ answer, r.Answer answer ∧ (s.send answer).SentBefore t) := by
  intro input
  obtain ⟨m, rest, read, holds⟩ := exists_of_readMessage input
    (fun m rest => decide (m.kind = "event" ∧ rest = [])) (by decide +kernel)
  obtain ⟨kind, rfl⟩ := of_decide_eq_true holds
  exact ⟨m, read, kind, ignored_iff read⟩

/-- A response without a body, as it is sent. -/
def bareResponse : Message := { seq := 1, kind := "response", content := .success 1 "threads" none }

theorem frame_bareResponse :
    bareResponse.frame = "Content-Length: 105\r\n\r\n\x7b\"seq\":1,\"type\":\"response\"," ++
      "\"request_seq\":1,\"success\":true,\"command\":\"threads\"," ++
      "\"message\":null,\"body\":null\x7d" := by
  simp only [frame, text, bareResponse, fields, Content.fields, Content.success, Json.text,
    Json.fieldTexts, Json.Number.text, Json.stringText_eq_foldl, Option.map_none, Option.getD_none,
    if_true]
  decide +kernel

/-- The name of the kind does not keep a response from being taken for a request. -/
theorem response_not_ignored :
    ¬ ∀ (input rest : List UInt8) (m : Message), Frame.readMessage input = (.ok (some m), rest) →
      m.kind ≠ "request" → m.Ignored := by
  intro ignored
  obtain ⟨m, rest, read, holds⟩ := exists_of_readMessage (Text.encode bareResponse.frame)
    (fun m _ => decide (m.kind = "response" ∧ m.request?.isSome = true)) (by
      rw [frame_bareResponse]
      decide +kernel)
  obtain ⟨kind, asks⟩ := of_decide_eq_true holds
  have asksNothing := ignored_iff_request?_eq_none.1 (ignored _ rest m read (by rw [kind]; decide))
  rw [asksNothing] at asks
  cases asks

end Message

end GuestDebugger.Adapter
