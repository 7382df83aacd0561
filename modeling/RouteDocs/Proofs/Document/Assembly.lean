import Mathlib.Data.List.Induction
import RouteDocs.Proofs.Document.Findings
import RouteDocs.Proofs.Document.Operations
import RouteDocs.Proofs.Document.Routes

/-!
How a document grows with the routes that are added to it. Every operation comes from the
first route that declares its method under its path, and stays as it was made.
-/

namespace RouteDocs

def Event.isDuplicate (e : Event) : Bool :=
  e.level == .warning && e.message == "Duplicate operation ignored"

theorem Event.IsFinding.isDuplicate_eq_false {e : Event} (finding : e.IsFinding) :
    e.isDuplicate = false := by
  cases e with
  | ruleLeftOut field typeName => rfl
  | errorUnresolved uri name => rfl
  | shapeComputed key => rfl
  | routeSkipped uri action => exact finding.elim
  | duplicateOperation path method => exact finding.elim
  | documentGenerated paths tags => exact finding.elim
  | configLoaded path => exact finding.elim
  | configMissing => exact finding.elim

/-- How often it was told that an operation was there already. -/
def duplicates (events : List Event) : Nat := events.countP Event.isDuplicate

namespace Document

open RouteDocs.Action (after)

variable {app : App} {s : Rule.Setting}

def tellDuplicates (path : String) (methods : List String) : Action PUnit :=
  forIn methods PUnit.unit fun method _ => do
    Action.report (.duplicateOperation path method)
    pure (.yield PUnit.unit)

theorem after_tellDuplicates (path : String) (methods : List String) (run : Run) :
    after (tellDuplicates path methods) run =
      (.ok PUnit.unit, { run with events := run.events ++ methods.map (.duplicateOperation path) }) := by
  unfold tellDuplicates
  induction methods generalizing run with
  | nil => simp
  | cons method rest induction =>
      rw [List.forIn_cons, Action.after_bind, Action.after_bind, Action.after_report]
      simp only [Action.after_pure]
      rw [induction, List.append_assoc]
      rfl

def pathOf (route : Route) : String := PathTemplate.normalize route.path

def withRoute (d : Document) (route : Route) (parts : RouteParts) : Document :=
  { d with
    paths := Keyed.put (pathOf route)
      (addOperations ((d.at? (pathOf route)).getD []) (operationFor route parts) route.methods).1
      d.paths
    tags := addTag d.tags route }

def duplicatesOf (d : Document) (route : Route) (parts : RouteParts) : List String :=
  (addOperations ((d.at? (pathOf route)).getD []) (operationFor route parts) route.methods).2

theorem addRoute_eq (d : Document) (index : Nat) (route : Route) :
    addRoute app s d index route = (do
      let parts ← partsOf app s d.tags index route
      let _ ← tellDuplicates (pathOf route) (duplicatesOf d route parts)
      pure (withRoute d route parts)) := rfl

theorem after_addRoute {d made : Document} {index : Nat} {route : Route} {run last : Run}
    (added : after (addRoute app s d index route) run = (.ok made, last)) :
    ∃ parts between, after (partsOf app s d.tags index route) run = (.ok parts, between) ∧
      made = withRoute d route parts ∧
      last = { between with events :=
        between.events ++ (duplicatesOf d route parts).map (.duplicateOperation (pathOf route)) } := by
  rw [addRoute_eq] at added
  obtain ⟨parts, between, found, added⟩ := Action.after_bind_ok added
  rw [Action.after_bind, after_tellDuplicates] at added
  cases added
  exact ⟨parts, between, found, rfl, rfl⟩

theorem addRouteOrSkip_of_dynamic {route : Route} (dynamic : route.isDynamic = true)
    (d : Document) (index : Nat) :
    addRouteOrSkip app s d (route, index) = (do
      Action.report (.routeSkipped route.uri route.action)
      pure d) := by
  rw [addRouteOrSkip, if_pos dynamic]

theorem addRouteOrSkip_of_handled {route : Route} (handled : route.isDynamic = false)
    (d : Document) (index : Nat) :
    addRouteOrSkip app s d (route, index) = addRoute app s d index route := by
  rw [addRouteOrSkip, if_neg (by rw [handled]; decide)]

/-! What a route changes. -/

def operationAt? (d : Document) (path method : String) : Option Operation :=
  (d.at? path).bind (List.lookup method)

def operationCount (d : Document) : Nat := (d.paths.map fun entry => entry.2.length).sum

section

variable (d : Document) (route : Route) (parts : RouteParts)

theorem paths_withRoute : (withRoute d route parts).paths.map Prod.fst =
    if pathOf route ∈ d.paths.map Prod.fst then d.paths.map Prod.fst
    else d.paths.map Prod.fst ++ [pathOf route] := by
  rw [withRoute, Keyed.keys_put]
  simp only [Keyed.lookup_isSome_iff]

theorem operationAt?_withRoute (path method : String) :
    (withRoute d route parts).operationAt? path method =
      (d.operationAt? path method).or
        (if pathOf route = path ∧ method ∈ route.methods then some (operationFor route parts method)
          else none) := by
  unfold operationAt? at? withRoute
  rw [Keyed.lookup_put]
  by_cases here : pathOf route = path
  · subst here
    rw [if_pos (beq_self_eq_true _), Option.bind_some, lookup_addOperations]
    simp only [true_and]
    unfold at?
    cases d.paths.lookup (pathOf route) with
    | none => rfl
    | some operations => rfl
  · rw [if_neg (by simpa using Ne.symm here), if_neg fun both => here both.1, Option.or_none]

theorem operationAt?_withRoute_eq_some {path method : String} {operation : Operation} :
    (withRoute d route parts).operationAt? path method = some operation ↔
      d.operationAt? path method = some operation ∨
        d.operationAt? path method = none ∧ (pathOf route = path ∧ method ∈ route.methods) ∧
          operation = operationFor route parts method := by
  rw [operationAt?_withRoute]
  cases d.operationAt? path method with
  | some old => simp
  | none =>
      by_cases here : pathOf route = path ∧ method ∈ route.methods
      · simp [here, eq_comm]
      · simp [here]

theorem operationCount_withRoute :
    (withRoute d route parts).operationCount + (duplicatesOf d route parts).length =
      d.operationCount + route.methods.length := by
  have made := length_addOperations ((d.at? (pathOf route)).getD []) (operationFor route parts)
    route.methods
  have put := Keyed.sum_put List.length (pathOf route)
    (addOperations ((d.at? (pathOf route)).getD []) (operationFor route parts) route.methods).1
    d.paths
  have before : ((d.paths.lookup (pathOf route)).map List.length).getD 0 =
      ((d.at? (pathOf route)).getD []).length := by
    unfold at?
    cases d.paths.lookup (pathOf route) <;> rfl
  rw [before] at put
  unfold operationCount duplicatesOf withRoute
  dsimp only
  omega

theorem methods_withRoute (distinct : ∀ entry ∈ d.paths, (entry.2.map Prod.fst).Nodup) :
    ∀ entry ∈ (withRoute d route parts).paths, (entry.2.map Prod.fst).Nodup := by
  intro entry member
  rcases Keyed.mem_put member with new | old
  · rw [new]
    apply nodup_addOperations
    unfold at?
    cases found : d.paths.lookup (pathOf route) with
    | none => exact List.nodup_nil
    | some operations =>
        obtain ⟨earlier, later, paths, _⟩ := List.lookup_eq_some_iff.mp found
        apply distinct (pathOf route, operations)
        rw [paths]
        exact List.mem_append_right _ List.mem_cons_self
  · exact distinct entry old

end

end Document
end RouteDocs
