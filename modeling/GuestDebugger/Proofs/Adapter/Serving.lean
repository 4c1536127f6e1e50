import GuestDebugger.Proofs.Adapter.Completion
import GuestDebugger.Proofs.Adapter.Frames

/-! # Serving a stream of frames

Frames are taken one after the other. Those that hold a message are handled until one of them ends
the service, and those that hold none are passed over. A body that ends too early is the exception:
it is taken for the end of the input, and the service fails. -/

namespace GuestDebugger.Adapter

namespace Frame.Complete

/-- The message of a frame, if there is one. -/
def message? (f : Complete) : Option Message := (Message.parse f.body).toOption

/-- Whether the body is the beginning of a message. -/
def endsEarly (f : Complete) : Bool :=
  match Message.parse f.body with
  | .error .endOfInput => true
  | _ => false

/-- The frames before the first one whose body ends too early. -/
def beforeEarlyEnd (frames : List Complete) : List Complete := frames.takeWhile (!·.endsEarly)

/-- The frames that hold a message. -/
def valid (frames : List Complete) : List Complete := frames.filter (·.message?.isSome)

theorem message?_eq_none_of_endsEarly {f : Complete} (early : f.endsEarly = true) :
    f.message? = none := by
  simp only [endsEarly] at early
  split at early
  · rename_i parsed
    simp only [message?, parsed]
    rfl
  · cases early

theorem not_endsEarly_of_mem_valid {frames : List Complete} {f : Complete}
    (mem : f ∈ valid frames) : f.endsEarly = false := by
  have holds := (List.mem_filter.1 mem).2
  cases early : f.endsEarly with
  | false => rfl
  | true =>
      rw [message?_eq_none_of_endsEarly early] at holds
      cases holds

theorem filterMap_message?_valid (frames : List Complete) :
    (valid frames).filterMap message? = frames.filterMap message? := by
  induction frames with
  | nil => rfl
  | cons f others ih =>
      cases message : f.message? with
      | none =>
          rw [List.filterMap_cons_none message, ← ih]
          simp [valid, message]
      | some m =>
          rw [List.filterMap_cons_some message, ← ih]
          simp [valid, message]

/-- Either no body ends too early, or the first one that does comes next. -/
theorem exists_behind_beforeEarlyEnd (frames : List Complete) :
    ∃ behind, frames = beforeEarlyEnd frames ++ behind ∧
      (∀ f ∈ beforeEarlyEnd frames, f.endsEarly = false) ∧
      (behind = [] ∨ ∃ early others, behind = early :: others ∧ early.endsEarly = true) := by
  induction frames with
  | nil => exact ⟨[], rfl, by simp [beforeEarlyEnd], .inl rfl⟩
  | cons f frames ih =>
      cases early : f.endsEarly with
      | true =>
          have nothing : beforeEarlyEnd (f :: frames) = [] := by simp [beforeEarlyEnd, early]
          rw [nothing]
          exact ⟨f :: frames, rfl, by simp, .inr ⟨f, frames, rfl, early⟩⟩
      | false =>
          have more : beforeEarlyEnd (f :: frames) = f :: beforeEarlyEnd frames := by
            simp [beforeEarlyEnd, early]
          obtain ⟨behind, all, whole, rest⟩ := ih
          rw [more]
          refine ⟨behind, by rw [List.cons_append, ← all], ?_, rest⟩
          intro x mem
          rcases List.mem_cons.1 mem with rfl | mem
          · exact early
          · exact whole x mem

end Frame.Complete

namespace Server

open GuestDebugger.Adapter.Frame (Complete)

/-- Serving an input comes to this end. -/
def Serves (around : Surroundings) (s : Server) (input : List UInt8) (served : Served) : Prop :=
  Settles (fun fuel => s.serve around fuel input) served

/-- Messages are handled one after the other, up to the first after which no more are. -/
inductive HandlesAll (around : Surroundings) : Server → List Message → Bool → Server → Prop
  | nil (s : Server) : HandlesAll around s [] true s
  | last {s t : Server} {m : Message} {rest : List Message} (handles : s.Handles around m false t) :
      HandlesAll around s (m :: rest) false t
  | cons {s t u : Server} {m : Message} {rest : List Message} {goesOn : Bool}
      (handles : s.Handles around m true t) (others : HandlesAll around t rest goesOn u) :
      HandlesAll around s (m :: rest) goesOn u

variable {around : Surroundings} {s t u : Server} {input rest : List UInt8} {served : Served}

theorem exists_handlesAll (around : Surroundings) (s : Server) (messages : List Message) :
    ∃ goesOn t, HandlesAll around s messages goesOn t := by
  induction messages generalizing s with
  | nil => exact ⟨true, s, .nil s⟩
  | cons m rest ih =>
      obtain ⟨goesOn, t, handles⟩ := s.exists_handles around m
      cases goesOn with
      | false => exact ⟨false, t, .last handles⟩
      | true =>
          obtain ⟨goesOn, u, others⟩ := ih t
          exact ⟨goesOn, u, .cons handles others⟩

/-- What comes after the last message that is handled makes no difference. -/
theorem HandlesAll.append {messages more : List Message}
    (handles : HandlesAll around s messages false t) :
    HandlesAll around s (messages ++ more) false t := by
  generalize ends : false = goesOn at handles
  induction handles with
  | nil => cases ends
  | last handles => exact .last handles
  | cons handles _ ih => exact .cons handles (ih ends)

/-! ### One frame -/

theorem serves_end (read : Frame.readMessage input = (.ok none, rest)) (shutsDown : s.ShutsDown t) :
    s.Serves around input ⟨none, t⟩ := by
  have ended := Settles.map shutsDown (⟨none, ·⟩ : Server → Served)
  refine Settles.of_succ ?_
  simpa only [serve, read] using ended

theorem serves_last {m : Message} (read : Frame.readMessage input = (.ok (some m), rest))
    (handles : s.Handles around m false t) (shutsDown : t.ShutsDown u) :
    s.Serves around input ⟨none, u⟩ := by
  have ended := Settles.map shutsDown (⟨none, ·⟩ : Server → Served)
  refine Settles.of_succ ?_
  simp only [serve, read]
  refine Settles.bind (Settles.succ handles) ?_
  simp only [Bool.false_eq_true, if_false]
  exact ended

theorem serves_next {m : Message} (read : Frame.readMessage input = (.ok (some m), rest))
    (handles : s.Handles around m true t) (serves : t.Serves around rest served) :
    s.Serves around input served := by
  refine Settles.of_succ ?_
  simp only [serve, read]
  refine Settles.bind (Settles.succ handles) ?_
  simp only [if_true]
  exact serves

theorem serves_skipped {e : FrameError} (read : Frame.readMessage input = (.error e, rest))
    (goesOn : e.isEndOfInput = false) (serves : s.Serves around rest served) :
    s.Serves around input served := by
  refine Settles.of_succ ?_
  simp only [serve, read, goesOn, Bool.false_eq_true, if_false]
  exact serves

theorem serves_failed {e : FrameError} (read : Frame.readMessage input = (.error e, rest))
    (ends : e.isEndOfInput = true) (shutsDown : s.ShutsDown t) :
    s.Serves around input ⟨some e, t⟩ := by
  have ended := Settles.map shutsDown (⟨some e, ·⟩ : Server → Served)
  refine Settles.of_succ ?_
  simpa only [serve, read, ends, if_true] using ended

/-! ### All frames -/

variable {frames : List Complete} {goesOn : Bool}

/-- Frames none of which ends too early are served as their messages are handled: either a message
ends the service, whatever comes behind, or what comes behind is served next. The induction is on
the frames. -/
theorem serves_stream_append
    (handles : HandlesAll around s (frames.filterMap Complete.message?) goesOn t)
    (whole : ∀ f ∈ frames, f.endsEarly = false) (rest : List UInt8) :
    (goesOn = false → ∀ u, t.ShutsDown u →
      s.Serves around (Complete.stream frames ++ rest) ⟨none, u⟩) ∧
    (goesOn = true → ∀ served, t.Serves around rest served →
      s.Serves around (Complete.stream frames ++ rest) served) := by
  induction frames generalizing s with
  | nil =>
      cases handles
      constructor
      · intro ends
        cases ends
      · intro _ served serves
        exact serves
  | cons f others ih =>
      have whole' : ∀ f ∈ others, f.endsEarly = false :=
        fun f mem => whole f (List.mem_cons_of_mem _ mem)
      have read := Frame.readMessage_bytes f (Complete.stream others ++ rest)
      rw [← List.append_assoc, ← Complete.stream_cons] at read
      cases parsed : Message.parse f.body with
      | ok m =>
          have message : f.message? = some m := by
            simp only [Complete.message?, parsed]
            rfl
          simp only [parsed] at read
          rw [List.filterMap_cons_some message] at handles
          cases handles with
          | last handles =>
              constructor
              · intro _ u shutsDown
                exact serves_last read handles shutsDown
              · intro goesOn
                cases goesOn
          | cons handles others =>
              obtain ⟨ended, next⟩ := ih others whole'
              constructor
              · intro ends u shutsDown
                exact serves_next read handles (ended ends u shutsDown)
              · intro goesOn served serves
                exact serves_next read handles (next goesOn served serves)
      | error e =>
          have message : f.message? = none := by
            simp only [Complete.message?, parsed]
            rfl
          have skipped : (FrameError.badBody e).isEndOfInput = false := by
            have notEarly := whole f List.mem_cons_self
            cases e with
            | endOfInput => simp [Complete.endsEarly, parsed] at notEarly
            | malformed => rfl
          simp only [parsed] at read
          rw [List.filterMap_cons_none message] at handles
          obtain ⟨ended, next⟩ := ih handles whole'
          constructor
          · intro ends u shutsDown
            exact serves_skipped read skipped (ended ends u shutsDown)
          · intro goesOn served serves
            exact serves_skipped read skipped (next goesOn served serves)

theorem serves_stream_of_whole
    (handles : HandlesAll around s (frames.filterMap Complete.message?) goesOn t)
    (whole : ∀ f ∈ frames, f.endsEarly = false) (shutsDown : t.ShutsDown u) :
    s.Serves around (Complete.stream frames) ⟨none, u⟩ := by
  obtain ⟨ended, next⟩ := serves_stream_append handles whole []
  rw [List.append_nil] at ended next
  cases goesOn with
  | false => exact ended rfl u shutsDown
  | true => exact next rfl _ (serves_end Frame.readMessage_nil shutsDown)

theorem serves_stream_cons_of_endsEarly {f : Complete} (early : f.endsEarly = true)
    (shutsDown : s.ShutsDown t) :
    s.Serves around (Complete.stream (f :: frames)) ⟨some (.badBody .endOfInput), t⟩ := by
  have read := Frame.readMessage_bytes f (Complete.stream frames)
  rw [← Complete.stream_cons] at read
  simp only [Complete.endsEarly] at early
  split at early
  · rename_i parsed
    simp only [parsed] at read
    exact serves_failed read rfl shutsDown
  · cases early

/-- Every stream of complete frames is served to an end, and the messages before the first body that
ends too early are handled one after the other. If one of them ends the service or there is no such
body, the service does not fail, and comes to the same end as if only the frames that hold a message
were there. Otherwise it fails at that body. -/
theorem serves_stream (around : Surroundings) (s : Server) (frames : List Complete) :
    ∃ goesOn t u,
      HandlesAll around s ((Complete.beforeEarlyEnd frames).filterMap Complete.message?) goesOn t ∧
      t.ShutsDown u ∧
      (goesOn = false ∨ (∀ f ∈ frames, f.endsEarly = false) →
        s.Serves around (Complete.stream frames) ⟨none, u⟩ ∧
        s.Serves around (Complete.stream (Complete.valid frames)) ⟨none, u⟩) ∧
      (goesOn = true → (∃ f ∈ frames, f.endsEarly = true) →
        s.Serves around (Complete.stream frames) ⟨some (.badBody .endOfInput), u⟩) := by
  obtain ⟨behind, all, whole, next⟩ := Complete.exists_behind_beforeEarlyEnd frames
  obtain ⟨goesOn, t, handles⟩ := exists_handlesAll around s
    ((Complete.beforeEarlyEnd frames).filterMap Complete.message?)
  obtain ⟨u, shutsDown⟩ := exists_shutsDown t
  have served := serves_stream_append handles whole (Complete.stream behind)
  rw [← Complete.stream_append, ← all] at served
  refine ⟨goesOn, t, u, handles, shutsDown, ?_, ?_⟩
  · intro untroubled
    -- All messages are handled to the same end, be there frames behind them or not.
    have handlesAll : HandlesAll around s (frames.filterMap Complete.message?) goesOn t ∧
        s.Serves around (Complete.stream frames) ⟨none, u⟩ := by
      cases goesOn with
      | false =>
          rw [all, List.filterMap_append]
          exact ⟨handles.append, by rw [← all]; exact served.1 rfl u shutsDown⟩
      | true =>
          have noneEarly : ∀ f ∈ frames, f.endsEarly = false := untroubled.resolve_left (by decide)
          rcases next with rfl | ⟨first, others, rfl, firstEarly⟩
          · rw [List.append_nil] at all
            rw [← all] at handles
            exact ⟨handles, serves_stream_of_whole handles noneEarly shutsDown⟩
          · rw [noneEarly first (by rw [all]; simp)] at firstEarly
            cases firstEarly
    refine ⟨handlesAll.2, ?_⟩
    have messages := handlesAll.1
    rw [← Complete.filterMap_message?_valid] at messages
    exact serves_stream_of_whole messages (fun f => Complete.not_endsEarly_of_mem_valid) shutsDown
  · rintro rfl ⟨f, mem, early⟩
    rcases next with rfl | ⟨first, others, rfl, firstEarly⟩
    · rw [all, List.append_nil] at mem
      rw [whole f mem] at early
      cases early
    · exact served.2 rfl _ (serves_stream_cons_of_endsEarly firstEarly shutsDown)

/-- A frame that holds no message may end the service before its input: here the body is empty. -/
theorem service_not_unfailing :
    ¬ ∀ (around : Surroundings) (s : Server) (frames : List Complete), ∃ u,
      s.Serves around (Complete.stream frames) ⟨none, u⟩ ∧
      s.Serves around (Complete.stream (Complete.valid frames)) ⟨none, u⟩ := by
  intro unfailing
  let noFiles : Surroundings := { files := fun _ => .error .notFound }
  let empty : Complete := .ofBody "" (by decide)
  obtain ⟨u, serves, -⟩ := unfailing noFiles {} [empty]
  obtain ⟨t, shutsDown⟩ := exists_shutsDown {}
  have early : empty.endsEarly = true := by decide +kernel
  have failed : Serves noFiles {} (Complete.stream [empty]) ⟨some (.badBody .endOfInput), t⟩ :=
    serves_stream_cons_of_endsEarly early shutsDown
  cases serves.unique failed

end Server

end GuestDebugger.Adapter
