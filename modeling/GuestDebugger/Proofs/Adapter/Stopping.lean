import GuestDebugger.Proofs.Adapter.Reporting

/-! # Requests to stop

Once the worker is asked to stop, the request waits for its next turn, and nobody but a client that
lets the guest run again takes it back. Only the turn that the worker is in may have looked at the
stop flag before. -/

namespace GuestDebugger.Adapter

/-- Whether a client asks to let the guest run. -/
def Move.Resumes (move : Move) : Prop :=
  move.AsksFor "continue" ∨ move.AsksFor "configurationDone" ∨ move.AsksFor "runTo"

/-- Whether the worker is asked to stop. -/
def Happening.RequestsStop (h : Happening) : Prop :=
  h.move = .performs ∧ h.before.pending.head? = some .requestStop

/-- Whether a move lets the guest execute nothing. -/
structure Happening.Still (h : Happening) : Prop where
  /-- No instruction is attempted. -/
  attempts : h.attempts = []
  /-- The machine stays as it is. -/
  machine : h.after.server.program.map (·.session.engine) =
    h.before.server.program.map (·.session.engine)

/-! ### What follows from a request to stop -/

/-- What the request loop has left to do lets no guest run. -/
def Halts (actions : List Action) : Prop :=
  ∀ action ∈ actions, action ≠ .startRunning ∧ action ≠ .clearStop

theorem Halts.sends (contents : List Content) : Halts (contents.map .send) := by
  intro action mem
  obtain ⟨content, -, rfl⟩ := List.mem_map.1 mem
  exact ⟨Action.noConfusion, Action.noConfusion⟩

theorem Halts.shutdownActions (s : Server) : Halts s.shutdownActions := by
  simp only [Server.shutdownActions, Halts]
  split <;> simp

/-- A guest that runs ran before, with the same request to stop. -/
def Server.RunsOn (s t : Server) : Prop :=
  ∀ q, t.program = some q → q.session.state.isRunning = true →
    ∃ p, s.program = some p ∧ p.session.state.isRunning = true ∧
      (p.flag.requested = true → q.flag.requested = true)

/-- The stop flag of a running guest is raised, or was found raised in the present turn. -/
structure Instant.Asked (i : Instant) : Prop where
  pending : Halts i.pending
  raised : ∀ p, i.server.program = some p → p.session.state.isRunning = true →
    p.flag.requested = true ∨ i.taken = some true

/-- Besides, no turn is under way that was to execute. -/
structure Instant.Halting (i : Instant) : Prop extends i.Asked where
  notLate : ∀ p, i.server.program = some p → p.session.state.isRunning = true →
    i.taken ≠ some false

namespace Request

variable {r : Request} {s t : Server} {actions : List Action}

/-- Nothing that a client asks for takes a request to stop back, unless it lets the guest run. -/
theorem Accepted.runsOn (accepted : r.Accepted s t actions)
    (other : r.command ≠ "continue" ∧ r.command ≠ "configurationDone" ∧ r.command ≠ "runTo") :
    Halts actions ∧ s.RunsOn t := by
  obtain ⟨notContinue, notDone, notRunTo⟩ := other
  have same : s.RunsOn s := fun q launched running => ⟨q, launched, running, id⟩
  cases accepted with
  | refused | answered => exact ⟨.sends [_], same⟩
  | launched =>
      refine ⟨.sends [_, _], fun q after running => ?_⟩
      cases after
      obtain ⟨files, clock, settings, started⟩ := ‹∃ _ _ _, _›
      obtain ⟨machine, stepping, labels, rfl⟩ := exists_create_of_start started
      cases running
  | configured _ named => exact absurd named notDone
  | ranTo _ named => exact absurd named notRunTo
  | resumed _ _ named => exact absurd named notContinue
  | @replaced p launched =>
      refine ⟨.sends [_], fun q after running => ?_⟩
      cases after
      have state := (frozen_replaceBreakpoints p.session s.owned.keys ‹_›).state
      exact ⟨p, launched, by rwa [← state], id⟩
  | @toggled p launched _ a =>
      refine ⟨.sends [_], fun q after running => ?_⟩
      cases after
      have state := (Session.Frozen.toggleBreakpoint p.session a).state
      exact ⟨p, launched, by rwa [← state], id⟩
  | stepped | paused =>
      refine ⟨?_, same⟩
      simp [Halts, respond]
  | disconnected =>
      refine ⟨?_, same⟩
      intro action mem
      rcases List.mem_cons.1 mem with rfl | rest
      · exact ⟨Action.noConfusion, Action.noConfusion⟩
      · exact Halts.shutdownActions s action rest

end Request

namespace Server

variable {s : Server} {action : Action}

/-- Nor does an action of the request loop. -/
theorem runsOn_perform (halts : action ≠ .startRunning ∧ action ≠ .clearStop)
    (still : action = .singleStep → ∀ p, s.program = some p → p.session.state.isRunning = false) :
    s.RunsOn (s.perform action).1 := by
  intro q after running
  cases action with
  | startRunning => exact absurd rfl halts.1
  | clearStop => exact absurd rfl halts.2
  | send => exact ⟨q, after, running, id⟩
  | release => cases after
  | wake | requestStop =>
      obtain ⟨p, launched, rfl⟩ := Option.map_eq_some_iff.1 after
      exact ⟨p, launched, running, fun _ => by first | assumption | rfl⟩
  | stopRunning =>
      obtain ⟨p, launched, rfl⟩ := Option.map_eq_some_iff.1 after
      rw [Session.isRunning_stopRunning] at running
      cases running
  | singleStep =>
      cases launched : s.program with
      | none =>
          simp only [perform, launched] at after
          cases after
      | some p =>
          simp only [perform, launched, sendOutput_eq] at after
          cases after
          have stays := Session.runStep_of_not_running (still rfl p launched)
          rw [Session.state_takeOutput, stays] at running
          cases running

theorem halts_perform (s : Server) (action : Action) : Halts (s.perform action).2 := by
  cases action with
  | singleStep =>
      simp only [perform]
      split
      · exact Halts.sends []
      · exact Halts.sends _
  | _ => exact Halts.sends []

end Server

namespace Instant

variable {i k : Instant} {move : Move}

theorem Asked.of_runsOn (asked : i.Asked) (pending : Halts k.pending)
    (runsOn : i.server.RunsOn k.server) (taken : k.taken = i.taken) : k.Asked := by
  refine ⟨pending, fun q after running => ?_⟩
  obtain ⟨p, before, ran, flag⟩ := runsOn q after running
  rw [taken]
  exact (asked.raised p before ran).imp flag id

theorem Halting.of_runsOn (halting : i.Halting) (pending : Halts k.pending)
    (runsOn : i.server.RunsOn k.server) (taken : k.taken = i.taken) : k.Halting := by
  refine ⟨halting.toAsked.of_runsOn pending runsOn taken, fun q after running => ?_⟩
  obtain ⟨p, before, ran, -⟩ := runsOn q after running
  rw [taken]
  exact halting.notLate p before ran

theorem Asked.halting_of_fresh (asked : i.Asked) (fresh : i.taken = none) : i.Halting := by
  refine ⟨asked, fun p launched running late => ?_⟩
  rw [fresh] at late
  cases late

/-- The request loop keeps the stop flag raised. -/
theorem Made.runsOn (made : Made i move k) (consistent : i.Consistent) (pending : Halts i.pending)
    (other : ¬ move.Resumes) (loop : move ≠ .works) :
    Halts k.pending ∧ i.server.RunsOn k.server ∧ k.taken = i.taken := by
  cases made with
  | @accepted _ r _ _ _ accepted =>
      have others : r.command ≠ "continue" ∧ r.command ≠ "configurationDone" ∧
          r.command ≠ "runTo" := by
        simpa only [Move.Resumes, Move.AsksFor, not_or] using other
      have ⟨halts, runsOn⟩ := accepted.runsOn others
      exact ⟨halts, runsOn, rfl⟩
  | finished =>
      exact ⟨.shutdownActions _, fun q launched running => ⟨q, launched, running, id⟩, rfl⟩
  | @performed action rest there =>
      rw [there] at pending
      have first := pending action List.mem_cons_self
      refine ⟨fun next mem => ?_, Server.runsOn_perform first fun step p launched => ?_, rfl⟩
      · rcases List.mem_append.1 mem with new | old
        · exact Server.halts_perform _ _ next new
        · exact pending next (List.mem_cons_of_mem action old)
      · exact (consistent.program p launched).still (by rw [there, step]; exact List.mem_cons_self)
  | _ => exact absurd rfl loop

/-- After an action of the worker, the next turn is the one that stops. -/
theorem Made.halting_of_works (made : Made i .works k) (consistent : i.Consistent)
    (asked : i.Asked) : k.Halting := by
  cases made with
  | woken launched phase | reported launched phase | told launched phase =>
      have fresh := consistent.taken_eq_none launched (by simp [phase])
      refine (asked.halting_of_fresh fresh).of_runsOn asked.pending (fun q after running => ?_) rfl
      cases after
      exact ⟨_, launched, running, id⟩
  | @looked p launched turning fresh =>
      have raised : p.session.state.isRunning = true → p.flag.requested = true := by
        intro running
        rcases asked.raised p launched running with flag | taken
        · exact flag
        · rw [fresh] at taken
          cases taken
      refine ⟨⟨asked.pending, fun q after running => ?_⟩, fun q after running => ?_⟩
      · cases after
        exact .inr (congrArg some (raised running))
      · intro late
        cases after
        cases (congrArg some (raised running)).symm.trans late
  | @ended p requested launched turning taken =>
      refine Asked.halting_of_fresh ⟨asked.pending, fun q after running => ?_⟩ rfl
      have ended := Server.turnEnded_restOfTurn requested p
      rw [Server.endTurn_eq] at after
      generalize Server.restOfTurn requested p = x at ended after
      cases after
      rw [Session.state_takeOutput] at running
      cases ended with
      | idle still =>
          rw [still] at running
          cases running
      | paused =>
          rw [Session.isRunning_stopRunning] at running
          cases running
      | goesOn ran unasked | stopped ran unasked =>
          -- The request was not found in this turn, so it waits for the next one.
          rcases asked.raised p launched ran with flag | found
          · exact .inl flag
          · rw [taken, unasked] at found
            cases found

theorem attempts_runTurn_of_not_running {s : Session Machine}
    (still : s.state.isRunning = false) : s.attempts .runTurn = [] := by
  simp only [Session.attempts, Session.apply, Session.runTurn, Session.watched, Session.map, still]
  rfl

/-- Where the guest is to stop, the worker executes nothing. -/
theorem Made.still_of_halting (made : Made i .works k) (halting : i.Halting) :
    (⟨i, .works, k⟩ : Happening).Still := by
  cases made with
  | woken launched phase | reported launched phase | told launched phase =>
      refine ⟨?_, ?_⟩
      · rw [Happening.attempts, execution?_of_works launched (by simp [phase]), Option.elim_none]
      · simp only [launched, Option.map_some]
  | looked launched turning fresh =>
      refine ⟨?_, ?_⟩
      · rw [Happening.attempts, execution?_of_works launched fun _ => fresh, Option.elim_none]
      · simp only [launched, Option.map_some]
  | @ended p requested launched turning taken =>
      have ended := Server.turnEnded_restOfTurn requested p
      rw [Server.endTurn_eq]
      generalize Server.restOfTurn requested p = x at ended ⊢
      cases ended with
      | idle still =>
          refine ⟨?_, ?_⟩
          · rw [Happening.attempts, execution?_of_taken launched turning taken, still,
              Bool.and_false, if_neg Bool.false_ne_true, Option.elim_some]
            exact attempts_runTurn_of_not_running still
          · simp only [launched, Option.map_some]
            rfl
      | paused running asked =>
          refine ⟨?_, ?_⟩
          · rw [Happening.attempts, execution?_of_taken launched turning taken, running, asked,
              Bool.and_self, if_pos rfl, Option.elim_none]
          · simp only [launched, Option.map_some, Session.stopRunning, running]
            rfl
      | goesOn running unasked | stopped running unasked =>
          rw [unasked] at taken
          exact absurd taken (halting.notLate p launched running)

theorem Made.halting (made : Made i move k) (consistent : i.Consistent) (halting : i.Halting)
    (other : ¬ move.Resumes) : k.Halting := by
  by_cases works : move = .works
  · subst works
    exact made.halting_of_works consistent halting.toAsked
  · obtain ⟨pending, runsOn, taken⟩ := made.runsOn consistent halting.pending other works
    exact halting.of_runsOn pending runsOn taken

theorem Made.asked_of_requestStop (made : Made i .performs k) (consistent : i.Consistent)
    (head : i.pending.head? = some .requestStop) : k.Asked ∧ k.taken = i.taken := by
  cases made with
  | @performed action rest pending =>
      rw [pending] at head
      obtain rfl : action = .requestStop := Option.some.inj head
      have orderly := consistent.orderly
      rw [pending] at orderly
      have halts : Halts rest := by
        cases orderly with
        | requestStop => exact Halts.sends []
        | requestRelease => simp [Halts]
      refine ⟨⟨halts, fun q after _ => ?_⟩, rfl⟩
      obtain ⟨p, -, rfl⟩ := Option.map_eq_some_iff.1 after
      exact .inl rfl

end Instant

/-! ### Histories -/

namespace History

variable {i k : Instant} {past : List Happening}

theorem halting (history : History i past k) (consistent : i.Consistent) (halting : i.Halting)
    (others : ∀ h ∈ past, ¬ h.move.Resumes) : k.Halting := by
  induction history with
  | nothing => exact halting
  | next made _ ih =>
      have step := Instant.made_of_move? made
      refine ih (step.consistent consistent) ?_ fun h mem => others h (List.mem_cons_of_mem _ mem)
      exact step.halting consistent halting (others _ List.mem_cons_self)

/-- After a request to stop, the guest is to stop, or the worker did nothing since. -/
theorem halting_or_forall_ne_works (history : History i past k) (consistent : i.Consistent)
    (asked : i.Asked) (others : ∀ h ∈ past, ¬ h.move.Resumes) :
    k.Halting ∨ (k.Asked ∧ k.taken = i.taken ∧ ∀ h ∈ past, h.move ≠ .works) := by
  induction history with
  | nothing => exact .inr ⟨asked, rfl, by simp⟩
  | @next i j k move past made rest ih =>
      have step := Instant.made_of_move? made
      have consistent' := step.consistent consistent
      have others' : ∀ h ∈ past, ¬ h.move.Resumes :=
        fun h mem => others h (List.mem_cons_of_mem _ mem)
      by_cases works : move = .works
      · subst works
        exact .inl (rest.halting consistent' (step.halting_of_works consistent asked) others')
      · obtain ⟨pending, runsOn, taken⟩ :=
          step.runsOn consistent asked.pending (others _ List.mem_cons_self) works
        rcases ih consistent' (asked.of_runsOn pending runsOn taken) others' with
          halting | ⟨asked', taken', loop⟩
        · exact .inl halting
        · refine .inr ⟨asked', taken'.trans taken, fun h mem => ?_⟩
          rcases List.mem_cons.1 mem with rfl | later
          · exact works
          · exact loop h later

/-- What the request loop and the worker bring about together. -/
structure Coordinated (past : List Happening) (k : Instant) : Prop where
  /-- A guest that runs has a worker that turns, or that will be woken up. -/
  awake {p : Program} : k.server.program = some p → p.session.state = .running →
    p.worker = .turning ∨ 0 < p.wakes ∨ .wake ∈ k.pending
  /-- Reports are sent once and in order by who owes them, or held by them. -/
  reported (party : Party) :
    reports (sentBy party past) ++ reports (k.held party) = dueTo party past
  /-- A stop of a running guest makes one report due, which tells its reason. Who made the move
  holds it and no other. -/
  stopped {h : Happening} {reason : StopReason} : h ∈ past → h.before.state? = some .running →
    h.after.state? = some (.stopped reason) → h.shutsDown = false →
      TellsStop reason h.due ∧ reports (h.after.held h.party) = h.due
  /-- A report that no such stop made due was asked for. -/
  asked {h : Happening} : h ∈ past →
    (∀ reason, h.before.state? = some .running → h.shutsDown = false →
      h.after.state? ≠ some (.stopped reason)) → h.due ≠ [] → h.AsksReport
  /-- From a request to stop on, and until a client lets the guest run again, the worker executes
  nothing but the rest of the turn that it was in. -/
  halts {before after between later : List Happening} {pause h : Happening} :
    past = before ++ pause :: after → pause.RequestsStop → (∀ g ∈ after, ¬ g.move.Resumes) →
      after = between ++ h :: later → h.move = .works →
        h.Still ∨ (pause.before.taken.isSome = true ∧ ∀ g ∈ between, g.move ≠ .works)

theorem halts_of_requestStop {before between later : List Happening} {pause h : Happening}
    (history : History i (before ++ pause :: (between ++ h :: later)) k)
    (consistent : i.Consistent) (requested : pause.RequestsStop)
    (others : ∀ g ∈ between ++ h :: later, ¬ g.move.Resumes) (works : h.move = .works) :
    h.Still ∨ (pause.before.taken.isSome = true ∧ ∀ g ∈ between, g.move ≠ .works) := by
  obtain ⟨earlier, paused, after⟩ := history.around
  obtain ⟨middle, made, -⟩ := after.around
  obtain ⟨performs, head⟩ := requested
  rw [performs] at paused
  rw [works] at made
  have start := earlier.consistent consistent
  have step := Instant.made_of_move? paused
  obtain ⟨asked, taken⟩ := step.asked_of_requestStop start head
  have last (halting : h.before.Halting) : h.Still := by
    have still := (Instant.made_of_move? made).still_of_halting halting
    rwa [← works] at still
  rcases middle.halting_or_forall_ne_works (step.consistent start) asked
      (fun g mem => others g (List.mem_append_left _ mem)) with halting | ⟨asked', taken', loop⟩
  · exact .inl (last halting)
  · cases fresh : h.before.taken with
    | none => exact .inl (last (asked'.halting_of_fresh fresh))
    | some requested =>
        refine .inr ⟨?_, loop⟩
        rw [← taken, ← taken', fresh]
        rfl

/-- However the moves of the request loop and of the worker alternate, no wake-up is lost, every
stop is reported once, and a request to stop is obeyed after at most the turn under way. -/
theorem coordinated (history : History { server := {} } past k) : Coordinated past k where
  awake {p} launched running :=
    ((history.consistent Instant.consistent_start).program p launched).awake (by rw [running]; rfl)
  reported party := by
    have nothing : reports (({ server := {} } : Instant).held party) = [] := by
      cases party <;> rfl
    rw [history.accounts Instant.consistent_start party, nothing, List.nil_append]
  stopped {h reason} mem running stopped other := by
    have stop := Happening.stop?_eq_some_iff.2 ⟨running, other, stopped⟩
    have due := Happening.due_eq_stopReport stop
    have tells : TellsStop reason h.due := by
      rw [due]
      exact tellsStop_stopReport reason
    refine ⟨tells, history.held_of_due Instant.consistent_start mem ?_⟩
    rw [due]
    exact stopReport_ne_nil reason
  asked mem never := history.asksReport_of_due mem (Happening.stop?_eq_none_of_forall never)
  halts split requested others split' works := by
    subst split'
    subst split
    exact history.halts_of_requestStop Instant.consistent_start requested others works

/-- A guest that does not end by itself. -/
def turningRound : Surroundings where
  files := fun _ => .ok (Text.encode "10 nop\n11 jmp 10\n")

/-- Lets it run, and asks to pause it in the middle of its first turn. -/
def pausing : List Move :=
  [.accepts turningRound ⟨1, "launch", .object [("program", .string "guest"),
      ("initialBatchSize", .number (.natural 4))]⟩, .performs, .performs,
    .accepts turningRound ⟨2, "continue", .null⟩, .performs, .performs, .performs, .works, .works,
    .accepts turningRound ⟨3, "pause", .null⟩, .performs, .performs, .works, .works, .works]

/-- The pause is obeyed after that turn, and the worker holds the one report of it. -/
theorem coordinated_pause :
    ∃ past k, History { server := {} } past k ∧ past.filterMap (·.stop?) = [.paused] ∧
      (k.held .worker).length = 1 ∧ (past.flatMap (·.attempts)).length = 4 ∧
      Coordinated past k := by
  have ran : (({ server := {} } : Instant).history? pausing).any
      (fun x => decide (x.1.filterMap (·.stop?) = [.paused] ∧
        (x.2.held .worker).length = 1 ∧ (x.1.flatMap (·.attempts)).length = 4)) = true := by
    decide +kernel
  obtain ⟨⟨past, k⟩, made, holds⟩ := (Option.any_eq_true _ _).1 ran
  obtain ⟨stops, held, attempts⟩ := of_decide_eq_true holds
  have history := Instant.history_of_history? made
  exact ⟨past, k, history, stops, held, attempts, coordinated history⟩

end History

end GuestDebugger.Adapter
