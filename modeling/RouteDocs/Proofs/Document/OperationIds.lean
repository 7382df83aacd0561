import RouteDocs.App.Route
import RouteDocs.Proofs.Document.Assembled
import RouteDocs.Proofs.Text.Pieces

/-!
When the operations of a document have ids of their own. An id is the name of a route, or its
controller and action, with the method behind it. Nothing keeps two routes from the same
beginning, so that it depends on the routes whether ids are unique.
-/

namespace RouteDocs

/-- What the ids of the route's operations start with. -/
def Route.idBase (route : Route) : String :=
  match Failure.nonEmpty route.name with
  | some name => name
  | none => ((route.controller.map ClassName.name).getD "") ++ "." ++ route.action

/-- The first text goes on behind the second one with what the second ending starts with. -/
def Text.Outruns (base ending other otherEnding : String) : Prop :=
  ∃ part, base = other ++ "." ++ part ∧ otherEnding = part ++ "." ++ ending

/-- The two operations are told apart by their route or method alone, but not by their id. -/
def Route.Clashes (route : Route) (method : String) (other : Route) (otherMethod : String) : Prop :=
  route.idBase = other.idBase ∧ Text.lower method = Text.lower otherMethod ∨
    Text.Outruns route.idBase (Text.lower method) other.idBase (Text.lower otherMethod) ∨
    Text.Outruns other.idBase (Text.lower otherMethod) route.idBase (Text.lower method)

namespace Text

theorem outruns_iff {base ending other otherEnding : String} :
    Outruns base ending other otherEnding ↔
      ∃ part, base.toList = other.toList ++ '.' :: part ∧
        otherEnding.toList = part ++ '.' :: ending.toList := by
  constructor
  · rintro ⟨part, rfl, rfl⟩
    exact ⟨part.toList, by simp⟩
  · rintro ⟨part, longer, shorter⟩
    refine ⟨String.ofList part, String.toList_inj.mp ?_, String.toList_inj.mp ?_⟩
    · simpa using longer
    · simpa using shorter

theorem pointed_eq_iff {base ending other otherEnding : String} :
    base ++ "." ++ ending = other ++ "." ++ otherEnding ↔
      base = other ∧ ending = otherEnding ∨ Outruns base ending other otherEnding ∨
        Outruns other otherEnding base ending := by
  rw [outruns_iff, outruns_iff, ← String.toList_inj, ← @String.toList_inj base other,
    ← @String.toList_inj ending otherEnding, ← append_cons_eq_append_cons_iff]
  simp

end Text

namespace Document

open RouteDocs.Action (after)

def operations (d : Document) : List ((String × String) × Operation) :=
  d.paths.flatMap fun (path, held) => held.map fun (method, operation) => ((path, method), operation)

def operationIds (d : Document) : List String :=
  d.paths.flatMap fun (_, held) => held.map fun (_, operation) => operation.operationId

/-- The operation for the path and the method is that of the route. -/
def Gives (routes : List Route) (route : Route) (path method : String) : Prop :=
  ∃ before, First routes before route path method

theorem operationId_eq (route : Route) (method : String) :
    operationId route method = route.idBase ++ "." ++ Text.lower method := rfl

theorem operationId_eq_iff {route other : Route} {method otherMethod : String} :
    operationId route method = operationId other otherMethod ↔
      route.Clashes method other otherMethod := by
  rw [operationId_eq, operationId_eq]
  exact Text.pointed_eq_iff

theorem operationIds_eq (d : Document) :
    operationIds d = (operations d).map fun entry => entry.2.operationId := by
  simp [operationIds, operations, List.map_flatMap, Function.comp_def]

/-! The operations stand under different keys. -/

section

variable {app : App} {s : Rule.Setting} {start d : Document} {run last : Run}
  {routes : List Route}

theorem Assembled.paths_nodup (assembled : Assembled app s start run routes d last) :
    (d.paths.map Prod.fst).Nodup := by
  rw [assembled.paths]
  exact Keys.nodup_eraseDups _

theorem Assembled.mem_operations (assembled : Assembled app s start run routes d last)
    {path method : String} {operation : Operation} :
    ((path, method), operation) ∈ operations d ↔
      d.operationAt? path method = some operation := by
  unfold operations operationAt? at?
  rw [List.mem_flatMap, Option.bind_eq_some_iff]
  constructor
  · rintro ⟨⟨known, held⟩, member, inside⟩
    obtain ⟨⟨name, kept⟩, here, same⟩ := List.mem_map.mp inside
    cases same
    exact ⟨held, Keyed.lookup_of_mem assembled.paths_nodup member,
      Keyed.lookup_of_mem (assembled.methods _ member) here⟩
  · rintro ⟨held, found, kept⟩
    exact ⟨(path, held), Keyed.mem_of_lookup found,
      List.mem_map.mpr ⟨(method, operation), Keyed.mem_of_lookup kept, rfl⟩⟩

theorem Assembled.operations_nodup (assembled : Assembled app s start run routes d last) :
    (operations d).Nodup := by
  unfold operations
  rw [List.nodup_flatMap]
  refine ⟨?_, ?_⟩
  · rintro ⟨path, held⟩ member
    apply List.Nodup.of_map Prod.fst
    rw [List.map_map]
    have distinct := (assembled.methods _ member).map
      fun method other (same : (path, method) = (path, other)) => (Prod.mk.inj same).2
    rwa [List.map_map] at distinct
  · refine (List.pairwise_map.mp assembled.paths_nodup).imp ?_
    rintro ⟨path, held⟩ ⟨other, kept⟩ different entry here there
    obtain ⟨_, _, rfl⟩ := List.mem_map.mp here
    obtain ⟨_, _, same⟩ := List.mem_map.mp there
    exact different (Prod.mk.inj (Prod.mk.inj same).1).1.symm

theorem First.unique {before between : List Route} {route other : Route} {path method : String}
    (isFirst : First routes before route path method)
    (alsoFirst : First routes between other path method) : route = other := by
  -- Of two first routes the earlier one would stand before the other, which rules it out.
  rcases List.prefix_or_prefix_of_prefix isFirst.place alsoFirst.place with earlier | earlier
  · rcases List.prefix_concat_iff.mp earlier with same | inside
    · exact (List.append_inj' same rfl).2 |> List.singleton_inj.mp
    · exact absurd isFirst.declares (alsoFirst.first route (inside.subset (by simp)))
  · rcases List.prefix_concat_iff.mp earlier with same | inside
    · exact ((List.append_inj' same rfl).2 |> List.singleton_inj.mp).symm
    · exact absurd alsoFirst.declares (isFirst.first other (inside.subset (by simp)))

theorem Assembled.operation_of_gives (assembled : Assembled app s start run routes d last)
    {route : Route} {path method : String} (gives : Gives routes route path method) :
    ∃ operation, d.operationAt? path method = some operation ∧
      operation.operationId = operationId route method := by
  obtain ⟨before, isFirst⟩ := gives
  have member : route ∈ routes := isFirst.place.subset (by simp)
  obtain ⟨operation, held⟩ :=
    (assembled.declared path method).mpr ⟨route, member, isFirst.declares⟩
  obtain ⟨earlier, maker, alsoFirst, _, _, parts, _, _, _, rfl⟩ := assembled.made _ _ _ held
  cases isFirst.unique alsoFirst
  exact ⟨_, held, rfl⟩

theorem Assembled.gives_of_operation (assembled : Assembled app s start run routes d last)
    {path method : String} {operation : Operation}
    (held : d.operationAt? path method = some operation) :
    ∃ route, Gives routes route path method ∧
      operation.operationId = operationId route method := by
  obtain ⟨before, route, isFirst, _, _, parts, _, _, _, rfl⟩ := assembled.made _ _ _ held
  exact ⟨route, ⟨before, isFirst⟩, rfl⟩

theorem First.mem_documented {before : List Route} {route : Route} {path method : String}
    (isFirst : First routes before route path method) : route ∈ documented routes := by
  rw [documented, List.mem_filter, isFirst.declares.handled]
  exact ⟨isFirst.place.subset (by simp), rfl⟩

theorem Assembled.operationIds_nodup (assembled : Assembled app s start run routes d last) :
    (operationIds d).Nodup ↔ ∀ route path method other otherPath otherMethod,
      Gives routes route path method → Gives routes other otherPath otherMethod →
        route.Clashes method other otherMethod → path = otherPath ∧ method = otherMethod := by
  rw [operationIds_eq, List.nodup_map_iff_inj_on assembled.operations_nodup]
  constructor
  · intro unique route path method other otherPath otherMethod gives alsoGives clashes
    obtain ⟨operation, held, id⟩ := assembled.operation_of_gives gives
    obtain ⟨rival, alsoHeld, rivalId⟩ := assembled.operation_of_gives alsoGives
    have same := unique _ (assembled.mem_operations.mpr held) _
      (assembled.mem_operations.mpr alsoHeld)
      (by rw [id, rivalId]; exact operationId_eq_iff.mpr clashes)
    cases same
    exact ⟨rfl, rfl⟩
  · rintro separate ⟨⟨path, method⟩, operation⟩ member ⟨⟨otherPath, otherMethod⟩, rival⟩ rivals same
    have held := assembled.mem_operations.mp member
    have alsoHeld := assembled.mem_operations.mp rivals
    obtain ⟨route, gives, id⟩ := assembled.gives_of_operation held
    obtain ⟨other, alsoGives, rivalId⟩ := assembled.gives_of_operation alsoHeld
    have clashes := operationId_eq_iff.mp (id.symm.trans (same.trans rivalId))
    obtain ⟨rfl, rfl⟩ := separate _ _ _ _ _ _ gives alsoGives clashes
    rw [held] at alsoHeld
    cases alsoHeld
    rfl

end

/-! Routes with the known methods. -/

theorem lower_inj_of_known : ∀ method ∈ Route.knownMethods, ∀ other ∈ Route.knownMethods,
    Text.lower method = Text.lower other → method = other := by decide +kernel

theorem not_pointed_of_known : ∀ method ∈ Route.knownMethods, '.' ∉ (Text.lower method).toList := by
  decide +kernel

theorem not_outruns_of_known {base ending other method : String}
    (known : method ∈ Route.knownMethods) :
    ¬ Text.Outruns base ending other (Text.lower method) := by
  rintro ⟨part, -, shorter⟩
  apply not_pointed_of_known method known
  rw [shorter]
  simp

theorem clashes_iff_of_known {route other : Route} {method otherMethod : String}
    (known : method ∈ Route.knownMethods) (otherKnown : otherMethod ∈ Route.knownMethods) :
    route.Clashes method other otherMethod ↔
      route.idBase = other.idBase ∧ method = otherMethod := by
  constructor
  · rintro (⟨same, lowered⟩ | outruns | outruns)
    · exact ⟨same, lower_inj_of_known _ known _ otherKnown lowered⟩
    · exact absurd outruns (not_outruns_of_known otherKnown)
    · exact absurd outruns (not_outruns_of_known known)
  · rintro ⟨same, rfl⟩
    exact .inl ⟨same, rfl⟩

/-! Whole documents. -/

/-- What the ids need besides different names: the routes that count must not clash. Routes whose
methods are known only have to differ in what their ids start with. -/
theorem operationIds_nodup_iff {app : App} {source : Source} {config : Config} {now : Moment}
    {run last : Run} {d : Document}
    (generated : after (generate app source config now) run = (.ok d, last)) :
    ((operationIds d).Nodup ↔ ∀ route path method other otherPath otherMethod,
      Gives app.routes route path method → Gives app.routes other otherPath otherMethod →
        route.Clashes method other otherMethod → path = otherPath ∧ method = otherMethod) ∧
      ((∀ route ∈ documented app.routes, ∀ method ∈ route.methods, method ∈ Route.knownMethods) →
        ((documented app.routes).map Route.idBase).Nodup → (operationIds d).Nodup) := by
  have unique := (generate_assembled generated).1.operationIds_nodup
  refine ⟨unique, fun known distinct => unique.mpr ?_⟩
  rintro route path method other otherPath otherMethod ⟨_, gives⟩ ⟨_, alsoGives⟩ clashes
  have member := gives.mem_documented
  have otherMember := alsoGives.mem_documented
  rw [clashes_iff_of_known (known _ member _ gives.declares.method)
    (known _ otherMember _ alsoGives.declares.method)] at clashes
  obtain ⟨same, rfl⟩ := clashes
  cases List.inj_on_of_nodup_map distinct member otherMember same
  exact ⟨gives.declares.path.symm.trans alsoGives.declares.path, rfl⟩

theorem operationIds_users : ∃ d last, after (generate users .counting {} noon) {} = (.ok d, last) ∧
    (operationIds d).Nodup := by
  obtain ⟨d, last, generated, -⟩ := @Action.exists_of_seen _ _
    (generate users .counting {} noon) {} bodyExamples [some "abcdefgh"] (by decide +kernel)
  exact ⟨d, last, generated, (operationIds_nodup_iff generated).2 (by decide) (by decide)⟩

/-! Routes without a name that have their action in common. -/

def people : App where
  ownClasses := [{ name := userController, methods := [("index", {})] }]
  routes :=
    [{ uri := "users", methods := ["POST"], controller := some userController, action := "index" },
     { uri := "people", methods := ["POST"], controller := some userController, action := "index" }]

theorem people_sameIds : (people.routes.filterMap Route.name).Nodup ∧ ∃ d last,
    after (generate people .counting {} noon) {} = (.ok d, last) ∧ ¬ (operationIds d).Nodup := by
  refine ⟨List.nodup_nil, _, _, rfl, ?_⟩
  change ¬ ["UserController.index.post", "UserController.index.post"].Nodup
  decide

end Document
end RouteDocs
