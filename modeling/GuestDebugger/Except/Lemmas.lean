/-! # Computations that may fail

What is known of the steps of a computation that did not fail. -/

namespace Except

variable {ε δ α β : Type}

theorem bind_of_ok {x : Except ε α} {f : α → Except ε β} {a : α} {r : Except ε β}
    (done : x = .ok a) (rest : f a = r) : (x >>= f) = r := by
  rw [done]
  exact rest

/-- What comes after a step was done only if the step was. -/
theorem exists_ok_of_bind {x : Except ε α} {f : α → Except ε β} {b : β}
    (done : (x >>= f) = .ok b) : ∃ a, x = .ok a ∧ f a = .ok b := by
  cases x with
  | error e => cases done
  | ok a => exact ⟨a, rfl, done⟩

theorem exists_ok_of_map {x : Except ε α} {f : α → β} {b : β} (done : x.map f = .ok b) :
    ∃ a, x = .ok a ∧ f a = b := by
  cases x with
  | error e => cases done
  | ok a =>
      cases done
      exact ⟨a, rfl, rfl⟩

theorem ok_of_mapError {x : Except ε α} {f : ε → δ} {a : α} (done : x.mapError f = .ok a) :
    x = .ok a := by
  cases x with
  | error e => cases done
  | ok b =>
      cases done
      rfl

theorem toOption_eq_some_iff {x : Except ε α} {a : α} : x.toOption = some a ↔ x = .ok a := by
  cases x with
  | error e => exact iff_of_false nofun nofun
  | ok b => rw [Except.toOption, Option.some.injEq, Except.ok.injEq]

end Except
