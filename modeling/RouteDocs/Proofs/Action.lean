import RouteDocs.Run

/-! What a step of a run gives, and the run behind it. -/

namespace RouteDocs.Action

variable {α β : Type}

/-- The result of a step and the run after it. -/
def after (step : Action α) (run : Run) : Except Failure α × Run :=
  step.run.run run

@[simp] theorem after_pure (a : α) (run : Run) : after (pure a) run = (.ok a, run) := rfl

theorem after_bind (step : Action α) (next : α → Action β) (run : Run) :
    after (step >>= next) run =
      match after step run with
      | (.ok a, run) => after (next a) run
      | (.error failure, run) => (.error failure, run) := by
  unfold after ExceptT.run StateT.run
  simp only [bind, ExceptT.bind, ExceptT.mk, StateT.bind, ExceptT.bindCont]
  cases step run with
  | mk result between => cases result <;> rfl

theorem after_bind_ok {step : Action α} {next : α → Action β} {run last : Run} {b : β}
    (succeeds : after (step >>= next) run = (.ok b, last)) :
    ∃ a between, after step run = (.ok a, between) ∧ after (next a) between = (.ok b, last) := by
  rw [after_bind] at succeeds
  cases ran : after step run with
  | mk result between =>
      rw [ran] at succeeds
      cases result with
      | error failure => cases succeeds
      | ok a => exact ⟨a, between, rfl, succeeds⟩

/-- A step has a result if something is seen of it. -/
theorem exists_of_seen {step : Action α} {run : Run} {view : α → β} {b : β}
    (seen : (after step run).1.toOption.map view = some b) :
    ∃ a last, after step run = (.ok a, last) ∧ view a = b := by
  cases ran : after step run with
  | mk result last =>
      rw [ran] at seen
      cases result with
      | error failure => cases seen
      | ok a => exact ⟨a, last, rfl, Option.some.inj seen⟩

@[simp] theorem after_lift (result : Except Failure α) (run : Run) :
    after (lift result) run = (result, run) := by
  cases result <;> rfl

theorem ok_of_after_liftFault {result : Except Fault α} {run last : Run} {a : α}
    (lifted : after (liftFault result) run = (.ok a, last)) : result = .ok a ∧ last = run := by
  rw [liftFault, after_lift] at lifted
  cases result with
  | error fault => cases lifted
  | ok b =>
      cases lifted
      exact ⟨rfl, rfl⟩

@[simp] theorem after_modify (change : Run → Run) (run : Run) :
    after (modifyThe Run change : Action Unit) run = (.ok (), change run) := rfl

@[simp] theorem after_report (event : Event) (run : Run) :
    after (report event) run = (.ok (), { run with events := run.events ++ [event] }) := rfl

@[simp] theorem after_getShapes (run : Run) :
    after (getThe (ShapeCache ClassName) : Action (ShapeCache ClassName)) run =
      (.ok run.shapes, run) := rfl

end RouteDocs.Action
