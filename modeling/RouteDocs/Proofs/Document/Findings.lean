import RouteDocs.Proofs.Document.Parts
import RouteDocs.Proofs.Reports
import RouteDocs.Proofs.Response.Steps
import RouteDocs.Proofs.Rule.Call

/-!
While everything about a route is found out, only what is wrong with its rules and errors
is reported, and which schemas are computed.
-/

namespace RouteDocs

/-- What is reported of a route before its operations are added. -/
def Event.IsFinding : Event → Prop
  | ruleLeftOut .. | errorUnresolved .. | shapeComputed _ => True
  | _ => False

namespace Rule.Reading

theorem findings_of_step {s : Setting} {r after : Reading} {item : Item}
    (stepped : r.step s item = .ok after) (before : ∀ e ∈ r.warnings, e.IsFinding) :
    ∀ e ∈ after.warnings, e.IsFinding := by
  intro e member
  rw [warnings_of_step stepped] at member
  rcases List.mem_append.mp member with early | late
  · exact before e early
  · obtain ⟨value, _, rfl⟩ := List.mem_map.mp late
    trivial

theorem findings_of_steps {s : Setting} {r : Reading} {items : List Item}
    (before : ∀ e ∈ r.warnings, e.IsFinding) : ∀ e ∈ (r.steps s items).1.warnings, e.IsFinding := by
  induction items generalizing r with
  | nil => exact before
  | cons item rest induction =>
      rw [steps]
      cases stepped : r.step s item with
      | error failure => exact before
      | ok after => exact induction (findings_of_step stepped before)

end Rule.Reading

open RouteDocs.Action (Reports reports_pure reports_throw reports_lift reports_nothing)

namespace Response

variable {app : App}

theorem Documents.reports {fails : Failure → Prop} {scope : ClassName → Prop} {samples : Nat}
    {α : Type} {step : Action α} (documents : Documents app fails scope samples step) :
    Reports Event.IsFinding step := by
  induction documents with
  | lift _ => exact reports_lift _
  | fail _ => exact reports_throw _
  | sampling => exact reports_nothing fun _ => rfl
  | bind _ _ first follows => exact first.bind_ran follows
  | shape _ _ _ _ _ computes =>
      exact Action.reports_getOrCompute ((Action.reports_report trivial).bind fun _ => computes)

theorem reports_resolve (type : Hint) (hasBody : Bool) (route : Option String) :
    Reports Event.IsFinding (resolve app type hasBody route) :=
  (anyhow_resolve type hasBody route).reports

theorem reports_resolveError (type : ClassName) (route : Option String) :
    Reports Event.IsFinding (resolveError app type route) :=
  (anyhow_resolveError type route).reports

end Response

namespace Document

variable {app : App} {s : Rule.Setting}

theorem reports_readField (name : String) (rules : Rule.Given) :
    Reports Event.IsFinding (readField s name rules) := by
  unfold readField
  refine Reports.bind Action.reports_get fun run => ?_
  refine Reports.bind (Action.reports_modify fun before => ⟨_, rfl, ?_⟩) fun _ => ?_
  · exact Rule.Reading.findings_of_steps fun e member => nomatch member
  · split
    · exact reports_throw _
    · refine Reports.bind (reports_lift _) fun enriched => ?_
      exact Reports.bind (reports_nothing fun _ => rfl) fun _ => reports_pure _

theorem reports_readFields (route : Nat) (inBody : Bool) (rules : FieldRules) :
    Reports Event.IsFinding (readFields s route inBody rules) :=
  Action.reports_mapM (fun ((name, given), _) =>
    (reports_readField name given).bind fun _ => reports_pure _) _

theorem reports_requestOf (route : Route) : Reports Event.IsFinding (requestOf app route) := by
  refine Reports.bind (reports_lift _) fun request => ?_
  cases request with
  | none => exact reports_pure none
  | some request => exact (reports_lift _).bind fun _ => reports_pure _

theorem reports_declaredErrors (route : Route) :
    Reports Event.IsFinding (declaredErrors app route) := by
  refine Action.reports_foldlM (fun errors name => ?_) _ _
  refine Reports.bind (reports_lift _) fun found => ?_
  cases found with
  | none => exact (Action.reports_report trivial).bind fun _ => reports_pure errors
  | some error => exact reports_pure _

theorem reports_asks (index : Nat) (request : Option ClassName) :
    Reports Event.IsFinding (asks app s index request) := by
  cases request with
  | none => exact reports_pure (none, [])
  | some request =>
      refine Reports.bind ?_ fun body => Reports.bind ?_ fun query => reports_pure _
      · exact (reports_lift _).bind fun rules => (reports_readFields index true rules).bind
          fun _ => reports_pure _
      · exact (reports_lift _).bind fun rules => (reports_readFields index false rules).bind
          fun _ => reports_pure _

theorem reports_answers (route : Route) : Reports Event.IsFinding (answers app route) := by
  refine Reports.bind ?_ fun default => (reports_declaredErrors route).bind fun declared => ?_
  · unfold defaultAnswer
    cases app.responseType? route with
    | none => exact reports_pure none
    | some type => exact (Response.reports_resolve type true _).bind fun _ => reports_pure _
  · exact (Action.reports_mapM (fun error => Response.reports_resolveError error _) declared).bind
      fun _ => reports_pure _

theorem reports_partsOf (tags : List (String × Tag)) (index : Nat) (route : Route) :
    Reports Event.IsFinding (partsOf app s tags index route) := by
  rw [partsOf_eq]
  refine (reports_requestOf route).bind fun request => ?_
  refine (reports_asks index request).bind fun asked => ?_
  exact (reports_answers route).bind fun answered => reports_pure _

end Document
end RouteDocs
