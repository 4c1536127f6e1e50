import GuestDebugger.Proofs.Prompt.Effects
import GuestDebugger.Proofs.Session.Entries

/-! # Lines that change nothing

A line that is answered by an error, or that only shows something, leaves the session and the stop
flag as they are, and the next line is read. So the prompt does with the lines behind it what it
would do without it. -/

namespace GuestDebugger

namespace Command

/-- The target that a command needs the address of. -/
def target? : Command → Option Target
  | runTo target | setBreakpoint target _ | delete target | toggle target | memory target _ =>
    some target
  | disassemble target _ => target
  | _ => none

/-- Whether a command only shows something that is there. -/
def Inspects : Command → Prop
  | listBreakpoints | registers | memory .. | disassemble .. | windows | stats | help => True
  | _ => False

end Command

namespace Prompt

variable {ε : Type} {s : Session ε} {flag : StopFlag} {target : Target}
  {action : Address → PromptM ε Unit}

/-! ### Actions that only write -/

/-- An action does nothing but write a text. -/
def Writes (action : PromptM ε Unit) (s : Session ε) (flag : StopFlag) (text : String) : Prop :=
  HasEffect action s flag ⟨.ok (), s, flag, text⟩

theorem writes_writeLines (lines : Session ε → List String) (s : Session ε) (flag : StopFlag) :
    Writes (do writeLines (lines (← session))) s flag (linesText (lines s)) :=
  .of_session (yields_writeLines (lines s) s flag).hasEffect

theorem writes_writeError (message : String) (s : Session ε) (flag : StopFlag) :
    Writes (writeError message) s flag ("error: " ++ message ++ "\n") :=
  (yields_write _ s flag).hasEffect

theorem writes_withAddress {a : Address} {text : String}
    (resolved : target.resolve s.labels = .ok a) (writes : Writes (action a) s flag text) :
    Writes (withAddress target action) s flag text := by
  refine .of_session ?_
  rwa [resolved]

theorem writes_withAddress_of_error {e : TargetError}
    (unresolved : target.resolve s.labels = .error e) :
    Writes (withAddress target action) s flag ("error: " ++ e.message ++ "\n") := by
  refine .of_session ?_
  rw [unresolved]
  exact writes_writeError _ s flag

theorem exists_writes_withAddress (writes : ∀ a, ∃ text, Writes (action a) s flag text) :
    ∃ text, Writes (withAddress target action) s flag text := by
  cases resolved : target.resolve s.labels with
  | error e => exact ⟨_, writes_withAddress_of_error resolved⟩
  | ok a =>
      obtain ⟨text, has⟩ := writes a
      exact ⟨text, writes_withAddress resolved has⟩

variable [Engine ε] {fuel : Nat}

/-- A command that only shows something writes a text. -/
theorem exists_writes_perform {command : Command} (inspects : command.Inspects) :
    ∃ text, Writes (perform fuel command) s flag text := by
  cases command with
  | listBreakpoints => exact ⟨_, writes_writeLines (fun s => s.breakpointLines) s flag⟩
  | registers => exact ⟨_, writes_writeLines (fun s => (Engine.registers s.engine).lines) s flag⟩
  | memory target length =>
      exact exists_writes_withAddress fun a =>
        ⟨_, writes_writeLines (fun s => memoryLines (Engine.memory s.engine) a length.toNat) s flag⟩
  | disassemble target count =>
      cases target with
      | none => exact ⟨_, writes_writeLines (fun s => s.disassemblyLines s.pc count.toNat) s flag⟩
      | some target =>
          exact exists_writes_withAddress fun a =>
            ⟨_, writes_writeLines (fun s => s.disassemblyLines a count.toNat) s flag⟩
  | windows => exact ⟨_, writes_writeLines (fun s => s.host.display.lines) s flag⟩
  | stats => exact ⟨_, writes_writeLines (fun s => s.statLines) s flag⟩
  | help => exact ⟨_, (yields_writeLines _ s flag).hasEffect⟩
  | step | resume | runTo | setBreakpoint | delete | toggle | output | quit => cases inspects

/-! ### Refused lines -/

/-- A line is answered by an error. -/
inductive Refused (s : Session ε) (line : String) : (message : String) → Prop
  /-- It does not read as a command. -/
  | unread {e : CommandError} (unread : Command.parse line = .error e) : Refused s line e.message
  /-- Its target has no address. -/
  | unresolved {command : Command} {target : Target} {e : TargetError}
      (read : Command.parse line = .ok command) (needs : command.target? = some target)
      (unresolved : target.resolve s.labels = .error e) : Refused s line e.message
  /-- There is no breakpoint to toggle. -/
  | noBreakpoint {target : Target} {a : Address} (read : Command.parse line = .ok (.toggle target))
      (resolved : target.resolve s.labels = .ok a) (absent : s.breakpoints.get? a = none) :
      Refused s line ("no breakpoint at " ++ a.text)
  /-- No byte of the range is in guest memory. -/
  | outside {target : Target} {a : Address} {length : UInt32}
      (read : Command.parse line = .ok (.memory target length))
      (resolved : target.resolve s.labels = .ok a)
      (outside : length = 0 ∨ (Engine.memory s.engine).size ≤ a.toNat) :
      Refused s line (a.text ++ " is outside guest memory")

/-- A command whose target has no address is not carried out. -/
theorem writes_perform_of_unresolved {command : Command} {e : TargetError}
    (needs : command.target? = some target) (unresolved : target.resolve s.labels = .error e) :
    Writes (perform fuel command) s flag ("error: " ++ e.message ++ "\n") := by
  cases command with
  | runTo | setBreakpoint | delete | toggle | memory =>
      cases needs
      exact writes_withAddress_of_error unresolved
  | disassemble target' count =>
      cases needs
      exact writes_withAddress_of_error unresolved
  | _ => cases needs

theorem writes_perform_toggle {a : Address} (resolved : target.resolve s.labels = .ok a)
    (absent : s.breakpoints.get? a = none) :
    Writes (perform fuel (.toggle target)) s flag
      ("error: " ++ ("no breakpoint at " ++ a.text) ++ "\n") := by
  refine writes_withAddress resolved (.of_session ?_)
  rw [Session.toggleBreakpoint_of_absent absent]
  exact .of_setSession (writes_writeError _ s flag)

theorem memoryLines_of_outside {memory : ByteArray} {a : Address} {length : UInt32}
    (outside : length = 0 ∨ memory.size ≤ a.toNat) :
    memoryLines memory a length.toNat = ["error: " ++ a.text ++ " is outside guest memory"] := by
  have outside : ¬ a.toNat < min (a.toNat + length.toNat) memory.size := by
    rcases outside with rfl | beyond
    · exact Nat.not_lt_of_le (Nat.min_le_left _ _)
    · omega
  simp only [memoryLines, if_neg outside]

theorem writes_perform_memory {a : Address} {length : UInt32}
    (resolved : target.resolve s.labels = .ok a)
    (outside : length = 0 ∨ (Engine.memory s.engine).size ≤ a.toNat) :
    Writes (perform fuel (.memory target length)) s flag
      ("error: " ++ (a.text ++ " is outside guest memory") ++ "\n") := by
  have shown := writes_writeLines
    (fun s => memoryLines (Engine.memory s.engine) a length.toNat) s flag
  rw [memoryLines_of_outside outside] at shown
  refine writes_withAddress resolved ?_
  simpa [linesText, String.append_assoc] using shown

/-! ### Answers -/

theorem hasEffect_answer_of_writes {line text : String} {command : Command}
    (read : Command.parse line = .ok command) (stays : command ≠ .quit)
    (writes : Writes (perform fuel command) s flag text) :
    HasEffect (answer fuel line) s flag ⟨.ok .next, s, flag, text⟩ := by
  have carriedOut : HasEffect (do perform fuel command; return Reaction.next) s flag _ :=
    writes.bind (yields_pure _ s flag).hasEffect
  rw [String.append_empty] at carriedOut
  rw [answer, read]
  cases command with
  | quit => exact absurd rfl stays
  | _ => exact carriedOut

/-- A refused line is answered by its error, and by nothing else. -/
theorem Refused.hasEffect {line message : String} (refused : Refused s line message) (fuel : Nat)
    (flag : StopFlag) :
    HasEffect (answer fuel line) s flag ⟨.ok .next, s, flag, "error: " ++ message ++ "\n"⟩ := by
  cases refused with
  | @unread e unread =>
      have told : HasEffect (do writeError e.message; return Reaction.next) s flag _ :=
        (writes_writeError e.message s flag).bind (yields_pure _ s flag).hasEffect
      rw [String.append_empty] at told
      rwa [answer, unread]
  | unresolved read needs unresolved =>
      refine hasEffect_answer_of_writes read ?_ (writes_perform_of_unresolved needs unresolved)
      rintro rfl
      cases needs
  | noBreakpoint read resolved absent =>
      exact hasEffect_answer_of_writes read Command.noConfusion
        (writes_perform_toggle resolved absent)
  | outside read resolved outside =>
      exact hasEffect_answer_of_writes read Command.noConfusion
        (writes_perform_memory resolved outside)

/-- A line is answered, nothing else happens, and the next line is read. -/
structure PassedOver (fuel : Nat) (line : List UInt8) (s : Session ε) (flag : StopFlag)
    (answer : String) : Prop where
  /-- The answer is written, and the session and the stop flag stay as they are. -/
  answered : HasEffect (answerBytes fuel line) s flag ⟨.ok .next, s, flag, answer⟩
  /-- Without the line, the same would come of the lines behind it, and the same text be written for
  them. -/
  absent (rest : List (List UInt8)) : ∃ e, HasEffect (loop fuel rest) s flag e ∧
    HasEffect (loop fuel (line :: rest)) s flag
      { e with text := promptText s ++ answer ++ e.text }

theorem PassedOver.of_answered {line : List UInt8} {answer : String}
    (answered : HasEffect (answerBytes fuel line) s flag ⟨.ok .next, s, flag, answer⟩) :
    PassedOver fuel line s flag answer where
  answered := answered
  absent rest := by
    obtain ⟨e, has⟩ := effective_loop fuel rest s flag
    refine ⟨e, has, ?_⟩
    rw [loop, String.append_assoc]
    refine HasEffect.bind (e := { e with text := answer ++ e.text })
      (yields_showPrompt s flag).hasEffect ?_
    refine HasEffect.bind (e := e) answered ?_
    exact has

/-- A line that is answered by an error, or that only shows something, is passed over. An error is
all of the answer. -/
theorem passed_over {line : List UInt8} {text : String} (decoded : Text.decode? line = some text)
    (idle : (∃ message, Refused s text message) ∨
      ∃ command, Command.parse text = .ok command ∧ command.Inspects)
    (fuel : Nat) (flag : StopFlag) :
    ∃ answer, PassedOver fuel line s flag answer ∧
      ∀ message, Refused s text message → answer = "error: " ++ message ++ "\n" := by
  have whole : ∃ told, HasEffect (answer fuel text : PromptM ε Reaction) s flag
      ⟨.ok .next, s, flag, told⟩ := by
    rcases idle with ⟨message, refused⟩ | ⟨command, read, inspects⟩
    · exact ⟨_, refused.hasEffect fuel flag⟩
    · obtain ⟨told, writes⟩ : ∃ told, Writes (perform fuel command) s flag told :=
        exists_writes_perform inspects
      refine ⟨told, hasEffect_answer_of_writes read ?_ writes⟩
      rintro rfl
      cases inspects
  obtain ⟨told, has⟩ := whole
  refine ⟨told, .of_answered ?_, fun message refused => ?_⟩
  · rwa [answerBytes, decoded]
  · exact congrArg Effect.text (has.unique (refused.hasEffect fuel flag))

/-- A guest that waits with a line of output, stopped at its second instruction. -/
def waiting : Session Machine :=
  let listing := Listing.ofOps [(0x10, .write "a"), (0x11, .write "b"), (0x12, .exit 0)]
  ((Session.create (Machine.create listing 16) {} {}).apply (.addBreakpoint 0x11 {})).apply .runStep

/-- To toggle a breakpoint that is not there does not even show the output that waits. -/
theorem passed_over_without_breakpoint :
    waiting.host.output = "a" ∧
      Text.decode? "t 0x12".toUTF8.toList = some "t 0x12" ∧
      Refused waiting "t 0x12" "no breakpoint at 0x00000012" ∧
      PassedOver 5 "t 0x12".toUTF8.toList waiting {} "error: no breakpoint at 0x00000012\n" := by
  have decoded : Text.decode? "t 0x12".toUTF8.toList = some "t 0x12" := by decide +kernel
  have read : Command.parse "t 0x12" = .ok (.toggle (.address 0x12)) := by decide +kernel
  have refused : Refused waiting "t 0x12" "no breakpoint at 0x00000012" :=
    .noBreakpoint read rfl (by decide +kernel)
  obtain ⟨answer, passed, told⟩ := passed_over decoded (.inl ⟨_, refused⟩) 5 {}
  obtain rfl := told _ refused
  exact ⟨by decide +kernel, decoded, refused, passed⟩

end Prompt

end GuestDebugger
