import RouteDocs.Failure

/-! What comes of a step that neither reads nor changes a run. -/

namespace RouteDocs

abbrev Outcome := Except Failure

namespace Outcome

variable {α β : Type}

theorem bind_congr {outcome : Outcome α} {next other : α → Outcome β}
    (same : ∀ a, outcome = .ok a → next a = other a) : outcome >>= next = outcome >>= other := by
  cases outcome with
  | error failure => rfl
  | ok a => exact same a rfl

theorem ok_of_bind {ε : Type} {outcome : Except ε α} {next : α → Except ε β} {b : β}
    (gives : outcome >>= next = .ok b) : ∃ a, outcome = .ok a ∧ next a = .ok b := by
  cases outcome with
  | error fault => cases gives
  | ok a => exact ⟨a, rfl, gives⟩

theorem ok_of_map {ε : Type} {outcome : Except ε α} {f : α → β} {b : β}
    (gives : outcome.map f = .ok b) : ∃ a, outcome = .ok a ∧ f a = b := by
  cases outcome with
  | error fault => cases gives
  | ok a => exact ⟨a, rfl, Except.ok.inj gives⟩

theorem ok_of_mapError {ε δ : Type} {outcome : Except ε α} {f : ε → δ} {a : α}
    (gives : outcome.mapError f = .ok a) : outcome = .ok a := by
  cases outcome with
  | error fault => cases gives
  | ok b => exact congrArg Except.ok (Except.ok.inj gives)

/-! The failure of a step alone. -/

section

variable {ε δ : Type}

def error? : Except ε α → Option ε
  | .ok _ => none
  | .error failure => some failure

theorem error?_map (f : α → β) (outcome : Except ε α) :
    error? (outcome.map f) = error? outcome := by
  cases outcome <;> rfl

theorem error?_mapError (f : ε → δ) (outcome : Except ε α) :
    error? (outcome.mapError f) = (error? outcome).map f := by
  cases outcome <;> rfl

/-- Where it does not depend on the first step how the second one fails, the first failure counts. -/
theorem error?_bind {outcome : Except ε α} {next : α → Except ε β} {failure : Option ε}
    (fails : ∀ a, outcome = .ok a → error? (next a) = failure) :
    error? (outcome >>= next) = (error? outcome).or failure := by
  cases outcome with
  | error first => rfl
  | ok a => exact fails a rfl

theorem error?_bind_pure (outcome : Except ε α) (f : α → β) :
    error? (outcome >>= fun a => pure (f a)) = error? outcome := by
  cases outcome <;> rfl

end

theorem toOption_map (f : α → β) (outcome : Outcome α) :
    (outcome.map f).toOption = outcome.toOption.map f := by
  cases outcome <;> rfl

end Outcome
end RouteDocs
