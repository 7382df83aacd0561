import RouteDocs.Proofs.Document.Assembly
import RouteDocs.Proofs.Keys

/-!
What a document holds once all routes are added: the paths in the order in which they were
first seen, and for every path and method the operation of the first route that declares
them.
-/

namespace RouteDocs

/-- The route is documented, and has the method under the path. -/
structure Route.Declares (route : Route) (path method : String) : Prop where
  handled : route.isDynamic = false
  path : Document.pathOf route = path
  method : method ∈ route.methods

namespace Document

open RouteDocs.Action (after)

def documented (routes : List Route) : List Route := routes.filter fun route => !route.isDynamic

/-- How many methods the routes declare, one by one. -/
def declaredCount (routes : List Route) : Nat :=
  ((documented routes).map fun route => route.methods.length).sum

def addRoutes (app : App) (s : Rule.Setting) (routes : List Route) (d : Document) :
    Action Document :=
  routes.zipIdx.foldlM (addRouteOrSkip app s) d

/-- The first of the routes that declares a method under a path, after the others. -/
structure First (routes before : List Route) (route : Route) (path method : String) : Prop where
  place : before ++ [route] <+: routes
  declares : route.Declares path method
  first : ∀ earlier ∈ before, ¬ earlier.Declares path method

/-- What a route makes of a method when those before it are added. -/
def Makes (app : App) (s : Rule.Setting) (start : Document) (run : Run) (before : List Route)
    (route : Route) (method : String) (operation : Operation) : Prop :=
  ∃ d between parts later, after (addRoutes app s before start) run = (.ok d, between) ∧
    after (partsOf app s d.tags before.length route) between = (.ok parts, later) ∧
    operation = operationFor route parts method

/-- The document holds what the routes declare. -/
structure Assembled (app : App) (s : Rule.Setting) (start : Document) (run : Run)
    (routes : List Route) (d : Document) (last : Run) : Prop where
  paths : d.paths.map Prod.fst = ((documented routes).map pathOf).eraseDups
  methods : ∀ entry ∈ d.paths, (entry.2.map Prod.fst).Nodup
  declared : ∀ path method, (∃ operation, d.operationAt? path method = some operation) ↔
    ∃ route ∈ routes, route.Declares path method
  made : ∀ path method operation, d.operationAt? path method = some operation →
    ∃ before route, First routes before route path method ∧
      Makes app s start run before route method operation
  told : duplicates last.events + d.operationCount =
    duplicates run.events + declaredCount routes

section

variable {app : App} {s : Rule.Setting} {start d : Document} {run last : Run}

theorem documented_concat_dynamic {routes : List Route} {route : Route}
    (dynamic : route.isDynamic = true) : documented (routes ++ [route]) = documented routes := by
  simp [documented, dynamic]

theorem documented_concat {routes : List Route} {route : Route}
    (handled : route.isDynamic = false) :
    documented (routes ++ [route]) = documented routes ++ [route] := by
  simp [documented, handled]

theorem First.concat {routes before : List Route} {route : Route} {path method : String}
    (isFirst : First routes before route path method) (more : List Route) :
    First (routes ++ more) before route path method where
  place := isFirst.place.trans (List.prefix_append routes more)
  declares := isFirst.declares
  first := isFirst.first

theorem duplicates_append (events added : List Event) :
    duplicates (events ++ added) = duplicates events + duplicates added :=
  List.countP_append

theorem duplicates_of_findings {events : List Event} (findings : ∀ e ∈ events, e.IsFinding) :
    duplicates events = 0 := by
  apply List.countP_eq_zero.mpr
  intro e member
  rw [(findings e member).isDuplicate_eq_false]
  exact Bool.false_ne_true

theorem duplicates_told (path : String) (methods : List String) :
    duplicates (methods.map (Event.duplicateOperation path)) = methods.length := by
  unfold duplicates
  rw [List.countP_map, List.countP_eq_length]
  intro method member
  rfl

theorem assembled_nil (empty : start.paths = []) : Assembled app s start run [] start run where
  paths := by rw [empty]; rfl
  methods entry member := by
    rw [empty] at member
    cases member
  declared path method := by simp [operationAt?, at?, empty]
  made path method operation found := by simp [operationAt?, at?, empty] at found
  told := by simp [operationCount, empty, declaredCount, documented]

theorem Assembled.skip {routes : List Route} {route : Route}
    (assembled : Assembled app s start run routes d last) (dynamic : route.isDynamic = true) :
    Assembled app s start run (routes ++ [route]) d
      { last with events := last.events ++ [.routeSkipped route.uri route.action] } where
  paths := by rw [documented_concat_dynamic dynamic, assembled.paths]
  methods := assembled.methods
  declared path method := by
    rw [assembled.declared]
    constructor
    · rintro ⟨declarer, member, declares⟩
      exact ⟨declarer, List.mem_append_left _ member, declares⟩
    · rintro ⟨declarer, member, declares⟩
      rcases List.mem_append.mp member with before | here
      · exact ⟨declarer, before, declares⟩
      · rw [List.mem_singleton.mp here] at declares
        exact absurd declares.handled (by rw [dynamic]; decide)
  made path method operation found := by
    obtain ⟨before, declarer, isFirst, makes⟩ := assembled.made path method operation found
    exact ⟨before, declarer, isFirst.concat _, makes⟩
  told := by
    have told := assembled.told
    rw [declaredCount, documented_concat_dynamic dynamic, ← declaredCount]
    show duplicates (last.events ++ [.routeSkipped route.uri route.action]) + _ = _
    rw [duplicates_append]
    exact told

/-- The operations that are there stay, and the route makes the others that it declares. -/
theorem Assembled.add {routes : List Route} {route : Route} {parts : RouteParts}
    {between later : Run} (assembled : Assembled app s start run routes d between)
    (added : after (addRoutes app s routes start) run = (.ok d, between))
    (handled : route.isDynamic = false)
    (found : after (partsOf app s d.tags routes.length route) between = (.ok parts, later)) :
    Assembled app s start run (routes ++ [route]) (withRoute d route parts)
      { later with events := later.events ++
        (duplicatesOf d route parts).map (.duplicateOperation (pathOf route)) } where
  paths := by
    rw [documented_concat handled, List.map_append, List.map_singleton, Keys.eraseDups_concat,
      paths_withRoute, assembled.paths]
  methods := methods_withRoute d route parts assembled.methods
  declared path method := by
    constructor
    · rintro ⟨operation, held⟩
      rcases (operationAt?_withRoute_eq_some d route parts).mp held with old | ⟨_, here, _⟩
      · obtain ⟨declarer, member, declares⟩ := (assembled.declared path method).mp ⟨_, old⟩
        exact ⟨declarer, List.mem_append_left _ member, declares⟩
      · exact ⟨route, List.mem_append_right _ List.mem_cons_self, handled, here.1, here.2⟩
    · rintro ⟨declarer, member, declares⟩
      cases before : d.operationAt? path method with
      | some old => exact ⟨old, (operationAt?_withRoute_eq_some d route parts).mpr (.inl before)⟩
      | none =>
          rcases List.mem_append.mp member with earlier | here
          · obtain ⟨old, held⟩ :=
              (assembled.declared path method).mpr ⟨declarer, earlier, declares⟩
            rw [before] at held
            cases held
          · rw [List.mem_singleton.mp here] at declares
            exact ⟨_, (operationAt?_withRoute_eq_some d route parts).mpr
              (.inr ⟨before, ⟨declares.path, declares.method⟩, rfl⟩)⟩
  made path method operation held := by
    rcases (operationAt?_withRoute_eq_some d route parts).mp held with old | ⟨before, here, rfl⟩
    · obtain ⟨earlier, declarer, isFirst, makes⟩ := assembled.made path method operation old
      exact ⟨earlier, declarer, isFirst.concat _, makes⟩
    · refine ⟨routes, route, ⟨List.prefix_refl _, ⟨handled, here.1, here.2⟩, ?_⟩,
        d, between, parts, later, added, found, rfl⟩
      -- An earlier declarer would have left an operation where there was none.
      intro declarer member declares
      obtain ⟨old, held⟩ := (assembled.declared path method).mpr ⟨declarer, member, declares⟩
      rw [before] at held
      cases held
  told := by
    obtain ⟨findings, events, allowed⟩ :=
      @reports_partsOf app s d.tags routes.length route between
    rw [found] at events
    change later.events = between.events ++ findings at events
    have told := assembled.told
    have count := operationCount_withRoute d route parts
    have quiet : duplicates later.events = duplicates between.events := by
      rw [events, duplicates_append, duplicates_of_findings allowed, Nat.add_zero]
    have more : declaredCount (routes ++ [route]) = declaredCount routes + route.methods.length := by
      rw [declaredCount, documented_concat handled, List.map_append, List.sum_append,
        List.map_singleton, List.sum_singleton]
      rfl
    show duplicates (later.events ++ _) + _ = _
    rw [duplicates_append, duplicates_told, quiet, more]
    omega

theorem addRoutes_concat (routes : List Route) (route : Route) :
    addRoutes app s (routes ++ [route]) start =
      addRoutes app s routes start >>= fun d => addRouteOrSkip app s d (route, routes.length) := by
  unfold addRoutes
  rw [List.zipIdx_append, List.foldlM_append]
  simp

theorem assembled_of_addRoutes (empty : start.paths = []) (routes : List Route)
    (added : after (addRoutes app s routes start) run = (.ok d, last)) :
    Assembled app s start run routes d last := by
  induction routes using List.reverseRecOn generalizing d last with
  | nil =>
      cases added
      exact assembled_nil empty
  | append_singleton routes route induction =>
      rw [addRoutes_concat] at added
      obtain ⟨made, between, before, here⟩ := Action.after_bind_ok added
      have assembled := induction before
      cases handled : route.isDynamic with
      | true =>
          rw [addRouteOrSkip_of_dynamic handled] at here
          cases here
          exact assembled.skip handled
      | false =>
          rw [addRouteOrSkip_of_handled handled] at here
          obtain ⟨parts, later, found, rfl, rfl⟩ := after_addRoute here
          exact assembled.add before handled found

/-! Further routes. -/

theorem operationAt?_of_addRouteOrSkip {made : Document} {routed : Route × Nat}
    (added : after (addRouteOrSkip app s d routed) run = (.ok made, last))
    {path method : String} {operation : Operation}
    (held : d.operationAt? path method = some operation) :
    made.operationAt? path method = some operation := by
  obtain ⟨route, index⟩ := routed
  cases handled : route.isDynamic with
  | true =>
      rw [addRouteOrSkip_of_dynamic handled] at added
      cases added
      exact held
  | false =>
      rw [addRouteOrSkip_of_handled handled] at added
      obtain ⟨parts, later, _, rfl, _⟩ := after_addRoute added
      exact (operationAt?_withRoute_eq_some d route parts).mpr (.inl held)

theorem operationAt?_of_foldlM {made : Document} (routed : List (Route × Nat))
    (added : after (routed.foldlM (addRouteOrSkip app s) d) run = (.ok made, last))
    {path method : String} {operation : Operation}
    (held : d.operationAt? path method = some operation) :
    made.operationAt? path method = some operation := by
  induction routed generalizing d run with
  | nil =>
      cases added
      exact held
  | cons first rest induction =>
      rw [List.foldlM_cons] at added
      obtain ⟨next, between, here, later⟩ := Action.after_bind_ok added
      exact induction later (operationAt?_of_addRouteOrSkip here held)

theorem addRoutes_append (routes more : List Route) :
    addRoutes app s (routes ++ more) start =
      addRoutes app s routes start >>= (more.zipIdx routes.length).foldlM (addRouteOrSkip app s) := by
  unfold addRoutes
  rw [List.zipIdx_append, List.foldlM_append, Nat.zero_add]

theorem addRoutes_routes (routes added : List Route) :
    addRoutes { app with routes } s added start = addRoutes app s added start := by
  unfold addRoutes
  rw [addRouteOrSkip_routes]

end

/-! Whole documents. -/

theorem addRoutes_of_generate {app : App} {source : Source} {config : Config} {now : Moment}
    {run last : Run} {d : Document}
    (generated : after (generate app source config now) run = (.ok d, last)) :
    ∃ between, after (addRoutes app (settingOf source config now) app.routes (start config))
        { run with shapes := {} } = (.ok d, between) ∧
      last = { between with
        events := between.events ++ [.documentGenerated d.paths.length d.tags.length] } := by
  obtain ⟨_, _, reset, generated⟩ := Action.after_bind_ok generated
  cases reset
  obtain ⟨made, between, added, generated⟩ := Action.after_bind_ok generated
  cases generated
  exact ⟨between, added, rfl⟩

theorem generate_keeps {app : App} {source : Source} {config : Config} {now : Moment}
    {more : List Route} {run last final : Run} {d longer : Document}
    (generated : after (generate app source config now) run = (.ok d, last))
    (extended : after (generate { app with routes := app.routes ++ more } source config now) run =
      (.ok longer, final)) {path method : String} {operation : Operation}
    (held : d.operationAt? path method = some operation) :
    longer.operationAt? path method = some operation := by
  obtain ⟨between, added, -⟩ := addRoutes_of_generate generated
  obtain ⟨_, more, -⟩ := addRoutes_of_generate extended
  rw [addRoutes_routes, addRoutes_append] at more
  obtain ⟨made, _, before, rest⟩ := Action.after_bind_ok more
  rw [added] at before
  cases before
  exact operationAt?_of_foldlM _ rest held

theorem generate_assembled {app : App} {source : Source} {config : Config} {now : Moment}
    {run last : Run} {d : Document}
    (generated : after (generate app source config now) run = (.ok d, last)) :
    Assembled app (settingOf source config now) (start config) { run with shapes := {} } app.routes d
        last ∧
      ∀ more longer final,
        after (generate { app with routes := app.routes ++ more } source config now) run =
          (.ok longer, final) →
        ∀ path method operation, d.operationAt? path method = some operation →
          longer.operationAt? path method = some operation := by
  constructor
  · obtain ⟨between, added, rfl⟩ := addRoutes_of_generate generated
    have assembled := assembled_of_addRoutes rfl app.routes added
    have quiet : duplicates
        (between.events ++ [.documentGenerated d.paths.length d.tags.length]) =
          duplicates between.events := by
      rw [duplicates_append]
      rfl
    exact { assembled with told := by rw [quiet, assembled.told] }
  · intro more longer final extended path method operation held
    exact generate_keeps generated extended held

/-! Paths that differ only in a mark of their placeholder. To save a user, a name is asked for. -/

def userController : ClassName := ⟨"shop", "UserController"⟩

def saveUser : ClassName := ⟨"shop", "SaveUser"⟩

def users : App where
  ownClasses :=
    [{ name := saveUser, parent := some Contract.requestName
       rules := some [("name", .text "string")] },
     { name := userController
       methods :=
         [("show", {}),
          ("save", { parameters := [{ name := "request", hint := some "SaveUser" }] })] }]
  names := [("SaveUser", .type saveUser)]
  routes :=
    [{ uri := "users/\x7bid\x7d", methods := ["GET", "HEAD"], controller := some userController
       action := "show" },
     { uri := "ping", methods := ["GET"], action := "closure" },
     { uri := "/users/\x7bid?\x7d/", methods := ["GET", "PUT"], controller := some userController
       action := "save" }]

def noon : Moment where
  date := { year := 2024, month := 3, day := 15 }
  hour := 12
  isOffset := Moment.isOffset_none

/-- The examples for the fields of all bodies. -/
def bodyExamples (d : Document) : List (Option String) :=
  d.paths.flatMap fun (_, held) => held.flatMap fun (_, operation) =>
    operation.requestBody.toList.flatMap fun body =>
      body.schema.children.map fun child => child.details.sample.map Value.display

/-- The routes that come again draw another name, and the first one stays. -/
theorem assembled_users : ∃ d last longer final,
    after (generate users .counting {} noon) {} = (.ok d, last) ∧
      after (generate { users with routes := users.routes ++ users.routes } .counting {} noon) {} =
        (.ok longer, final) ∧
      (last.draw = 1 ∧ final.draw = 2) ∧
      bodyExamples d = [some "abcdefgh"] ∧ bodyExamples longer = [some "abcdefgh"] ∧
      Assembled users (settingOf .counting {} noon) (start {}) {} users.routes d last ∧
      ∀ path method operation, d.operationAt? path method = some operation →
        longer.operationAt? path method = some operation := by
  obtain ⟨d, last, generated, example_⟩ := @Action.exists_of_seen _ _
    (generate users .counting {} noon) {} bodyExamples [some "abcdefgh"] (by decide +kernel)
  obtain ⟨longer, final, extended, sameExample⟩ := @Action.exists_of_seen _ _
    (generate { users with routes := users.routes ++ users.routes } .counting {} noon) {}
    bodyExamples [some "abcdefgh"] (by decide +kernel)
  have drawn : (after (generate users .counting {} noon) {}).2.draw = 1 := by decide +kernel
  have drawnAgain : (after (generate { users with routes := users.routes ++ users.routes }
      .counting {} noon) {}).2.draw = 2 := by decide +kernel
  rw [generated] at drawn
  rw [extended] at drawnAgain
  obtain ⟨assembled, kept⟩ := generate_assembled generated
  exact ⟨d, last, longer, final, generated, extended, ⟨drawn, drawnAgain⟩, example_, sameExample,
    assembled, kept _ longer final extended⟩

end Document
end RouteDocs
