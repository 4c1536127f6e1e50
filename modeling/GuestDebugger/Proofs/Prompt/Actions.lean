import GuestDebugger.Prompt.Loop

/-! # What every action at the prompt is made of

All that the prompt does is put together from a few single actions. So what holds of these, and of
one action after another, holds of every command, of every line and of the whole prompt. -/

namespace GuestDebugger.Prompt

variable {ε : Type} [Engine ε]

/-- A property of actions that the single ones have, runs of the guest for at most `fuel` turns
among them, and that passes to one action after another. -/
structure Compositional (fuel : Nat) (P : (α : Type) → PromptM ε α → Prop) : Prop where
  pure : ∀ {α : Type} (a : α), P α (pure a)
  throw : ∀ {α : Type} (failure : PromptFailure), P α (throw failure)
  bind : ∀ {α β : Type} {action : PromptM ε α} {next : α → PromptM ε β},
    P α action → (∀ a, P β (next a)) → P β (action >>= next)
  session : P (Session ε) session
  setSession : ∀ s, P Unit (setSession s)
  write : ∀ text, P Unit (write text)
  flushOutput : P Unit flushOutput
  runAndReport : P Unit (runAndReport fuel)

namespace Compositional

variable {fuel : Nat} {P : (α : Type) → PromptM ε α → Prop}

theorem writeLines (holds : Compositional fuel P) (lines : List String) :
    P Unit (writeLines lines) := by
  induction lines with
  | nil => exact holds.pure ()
  | cons line rest ih => exact holds.bind (holds.write _) fun _ => ih

theorem report (holds : Compositional fuel P) : P Unit report :=
  holds.bind holds.session fun s => holds.writeLines s.stopLines

theorem withAddress (holds : Compositional fuel P) (target : Target)
    {action : Address → PromptM ε Unit} (each : ∀ a, P Unit (action a)) :
    P Unit (withAddress target action) := by
  refine holds.bind holds.session fun s => ?_
  split
  · exact each _
  · exact holds.write _

theorem perform (holds : Compositional fuel P) (command : Command) :
    P Unit (perform fuel command) := by
  cases command with
  | step count =>
      exact holds.bind holds.session fun s => holds.bind (holds.setSession _) fun _ =>
        holds.bind holds.flushOutput fun _ => holds.report
  | resume =>
      exact holds.bind holds.session fun s => holds.bind (holds.setSession _) fun _ =>
        holds.runAndReport
  | runTo target =>
      exact holds.withAddress target fun a => holds.bind holds.session fun s =>
        holds.bind (holds.setSession _) fun _ => holds.runAndReport
  | setBreakpoint target flags =>
      exact holds.withAddress target fun a => holds.bind holds.session fun s =>
        holds.bind (holds.setSession _) fun _ => holds.bind holds.session fun t => holds.write _
  | delete target =>
      exact holds.withAddress target fun a => holds.bind holds.session fun s => holds.setSession _
  | toggle target =>
      refine holds.withAddress target fun a => holds.bind holds.session fun s =>
        holds.bind (holds.setSession _) fun _ => ?_
      split
      · exact holds.write _
      · exact holds.write _
  | memory target length =>
      exact holds.withAddress target fun a => holds.bind holds.session fun s => holds.writeLines _
  | disassemble target count =>
      cases target with
      | none => exact holds.bind holds.session fun s => holds.writeLines _
      | some target =>
          exact holds.withAddress target fun a => holds.bind holds.session fun s =>
            holds.writeLines _
  | listBreakpoints | registers | windows | stats =>
      exact holds.bind holds.session fun s => holds.writeLines _
  | output => exact holds.flushOutput
  | help => exact holds.writeLines _
  | quit => exact holds.pure _

theorem answer (holds : Compositional fuel P) (line : String) : P Reaction (answer fuel line) := by
  rw [Prompt.answer]
  split
  · exact holds.bind (holds.write _) fun _ => holds.pure _
  · exact holds.pure _
  · exact holds.bind (holds.perform _) fun _ => holds.pure _

theorem answerBytes (holds : Compositional fuel P) (line : List UInt8) :
    P Reaction (answerBytes fuel line) := by
  rw [Prompt.answerBytes]
  split
  · exact holds.throw _
  · exact holds.answer _

theorem showPrompt (holds : Compositional fuel P) : P Unit showPrompt :=
  holds.bind holds.session fun _ => holds.write _

/-- The prompt has the property, whatever the lines are. The induction is on the lines. -/
theorem loop (holds : Compositional fuel P) (lines : List (List UInt8)) :
    P Unit (loop fuel lines) := by
  induction lines with
  | nil => exact holds.bind holds.showPrompt fun _ => holds.write _
  | cons line rest ih =>
      refine holds.bind holds.showPrompt fun _ => ?_
      refine holds.bind (holds.answerBytes line) fun reaction => ?_
      cases reaction with
      | next => exact ih
      | quit => exact holds.pure ()

end Compositional

end GuestDebugger.Prompt
