import RouteDocs.Proofs.Action

/-! What a step may report on its way, whether it succeeds or not. -/

namespace RouteDocs.Action

/-- All that the step does to what was reported is to add events of one kind. -/
def Reports (kind : Event → Prop) {α : Type} (step : Action α) : Prop :=
  ∀ run, ∃ added, (after step run).2.events = run.events ++ added ∧ ∀ e ∈ added, kind e

variable {α β : Type} {kind : Event → Prop}

theorem reports_nothing {step : Action α}
    (same : ∀ run, (after step run).2.events = run.events) : Reports kind step := by
  intro run
  exact ⟨[], by rw [same, List.append_nil], fun e member => nomatch member⟩

theorem reports_pure (a : α) : Reports kind (pure a) := reports_nothing fun _ => rfl

theorem reports_throw (failure : Failure) : Reports kind (throw failure : Action α) :=
  reports_nothing fun _ => rfl

theorem reports_lift (result : Except Failure α) : Reports kind (lift result) :=
  reports_nothing fun run => by rw [after_lift]

theorem reports_report {event : Event} (allowed : kind event) : Reports kind (report event) := by
  intro run
  exact ⟨[event], rfl, fun e member => List.mem_singleton.mp member ▸ allowed⟩

theorem reports_modify {change : Run → Run}
    (adds : ∀ run, ∃ added, (change run).events = run.events ++ added ∧ ∀ e ∈ added, kind e) :
    Reports kind (modifyThe Run change : Action Unit) :=
  adds

theorem reports_get : Reports kind (getThe Run : Action Run) := reports_nothing fun _ => rfl

theorem Reports.bind_ran {step : Action α} {next : α → Action β} (first : Reports kind step)
    (follows : ∀ a run last, after step run = (.ok a, last) → Reports kind (next a)) :
    Reports kind (step >>= next) := by
  intro run
  obtain ⟨added, events, allowed⟩ := first run
  rw [after_bind]
  cases ran : after step run with
  | mk result between =>
      rw [ran] at events
      cases result with
      | error failure => exact ⟨added, events, allowed⟩
      | ok a =>
          obtain ⟨more, later, permitted⟩ := follows a run between ran between
          refine ⟨added ++ more, ?_, ?_⟩
          · show (after (next a) between).2.events = _
            rw [later, events, List.append_assoc]
          · intro e member
            rcases List.mem_append.mp member with early | late
            · exact allowed e early
            · exact permitted e late

theorem Reports.bind {step : Action α} {next : α → Action β} (first : Reports kind step)
    (follows : ∀ a, Reports kind (next a)) : Reports kind (step >>= next) :=
  first.bind_ran fun a _ _ _ => follows a

theorem reports_mapM {step : α → Action β} (each : ∀ a, Reports kind (step a)) (items : List α) :
    Reports kind (items.mapM step) := by
  induction items with
  | nil => exact reports_pure []
  | cons head tail induction =>
      rw [List.mapM_cons]
      exact (each head).bind fun _ => induction.bind fun _ => reports_pure _

theorem reports_foldlM {step : β → α → Action β} (each : ∀ b a, Reports kind (step b a))
    (items : List α) (start : β) : Reports kind (items.foldlM step start) := by
  induction items generalizing start with
  | nil => exact reports_pure start
  | cons head tail induction =>
      rw [List.foldlM_cons]
      exact (each start head).bind fun b => induction b

theorem reports_getOrCompute {key : ClassName} {compute : Action Schema.Node}
    (computes : Reports kind compute) : Reports kind (ShapeCache.getOrCompute key compute) := by
  unfold ShapeCache.getOrCompute
  refine Reports.bind (reports_nothing fun _ => rfl) fun cache => ?_
  cases cache.find? key with
  | some node => exact reports_pure node
  | none =>
      exact computes.bind fun node => Reports.bind (reports_nothing fun _ => rfl) fun _ =>
        reports_pure node

end RouteDocs.Action
