import RouteDocs.Proofs.Document.Assembled
import RouteDocs.Proofs.Schema.Shown
import RouteDocs.Proofs.Text.Case

/-!
The tags of a document: one for every base name of a controller, whatever its letters, spelled as
the first route spells it. Every operation has the tag of its controller.
-/

namespace RouteDocs

open RouteDocs.Action (after)
open Schema (entry)
open Value (lookup? entryOf?_append entryOf?_cons)

namespace App

theorem withoutLast?_eq_some {part name shorter : List Char}
    (found : withoutLast? part name = some shorter) :
    ∃ front back, name = front ++ part ++ back ∧ shorter = front ++ back := by
  induction name generalizing shorter with
  | nil => cases found
  | cons c rest induction =>
      rw [withoutLast?] at found
      split at found
      · rename_i later further
        cases found
        obtain ⟨front, back, rfl, rfl⟩ := induction further
        exact ⟨c :: front, back, rfl, rfl⟩
      · exact ⟨[], shorter, Text.dropStart?_eq_some.mp found, rfl⟩

theorem mem_of_mem_baseName {name : List Char} {c : Char} (member : c ∈ baseName name) :
    c ∈ name := by
  unfold baseName at member
  split at member
  · cases member
  · rename_i first rest
    split at member
    · rename_i shorter found
      obtain ⟨front, back, rfl, rfl⟩ := withoutLast?_eq_some found
      simp only [List.mem_cons, List.mem_append] at member ⊢
      tauto
    · exact member

end App

namespace Document

/-! The tags that routes make. -/

def registry (routes : List Route) : List (String × Tag) := routes.foldl addTag []

theorem lookup_addTag (tags : List (String × Tag)) (route : Route) (key : String) :
    (addTag tags route).lookup key =
      (tags.lookup key).or (if tagKey route = key then some (tagFor route) else none) := by
  rw [addTag]
  cases known : tags.lookup (tagKey route) with
  | some tag =>
      by_cases here : tagKey route = key
      · rw [← here, known]
        rfl
      · rw [if_neg here, Option.or_none]
  | none =>
      dsimp only
      rw [List.lookup_append]
      by_cases here : tagKey route = key
      · subst here
        rw [if_pos rfl, List.lookup_cons_self]
      · rw [if_neg here, Keyed.lookup_cons_of_ne here]
        rfl

theorem keys_addTag (tags : List (String × Tag)) (route : Route) :
    (addTag tags route).map Prod.fst =
      if tagKey route ∈ tags.map Prod.fst then tags.map Prod.fst
      else tags.map Prod.fst ++ [tagKey route] := by
  simp only [← Keyed.lookup_isSome_iff]
  rw [addTag]
  cases tags.lookup (tagKey route) with
  | some tag => rfl
  | none => exact List.map_append

/-- A tag is what the first route with its key makes. -/
theorem lookup_registry (routes : List Route) (key : String) :
    (registry routes).lookup key =
      (routes.find? fun route => tagKey route == key).map tagFor := by
  induction routes using List.reverseRecOn with
  | nil => rfl
  | append_singleton routes route induction =>
      rw [registry, List.foldl_concat, ← registry, lookup_addTag, induction, List.find?_append,
        Option.map_or, List.find?_singleton]
      by_cases here : tagKey route = key <;> simp [here]

theorem keys_registry (routes : List Route) :
    (registry routes).map Prod.fst = (routes.map tagKey).eraseDups := by
  induction routes using List.reverseRecOn with
  | nil => rfl
  | append_singleton routes route induction =>
      rw [registry, List.foldl_concat, ← registry, keys_addTag, induction, List.map_append,
        List.map_singleton, Keys.eraseDups_concat]

theorem mem_registry {routes : List Route} {key : String} {tag : Tag} :
    (key, tag) ∈ registry routes ↔
      ∃ route, routes.find? (fun other => tagKey other == key) = some route ∧
        tag = tagFor route := by
  have distinct : ((registry routes).map Prod.fst).Nodup := by
    rw [keys_registry]
    exact Keys.nodup_eraseDups _
  have found : (key, tag) ∈ registry routes ↔ (registry routes).lookup key = some tag :=
    ⟨Keyed.lookup_of_mem distinct, Keyed.mem_of_lookup⟩
  rw [found, lookup_registry, Option.map_eq_some_iff]
  simp only [eq_comm]

/-! Spellings of a name. -/

/-- The first letter of a name is raised, and the rest stays. -/
structure Raises (name raised : String) : Prop where
  letters : ∀ first rest, name.toList = first :: rest →
    raised.toList = Text.upperChar first ++ rest
  ascii : ∀ first rest, name.toList = first :: rest → first.toNat < 128 →
    raised.toList = first.toUpper :: rest
  empty : name = "" → raised = ""

theorem raises_capitalize (name : String) : Raises name (capitalize name) where
  letters first rest given := by rw [capitalize, given, String.toList_ofList]
  ascii first rest given here := by
    rw [capitalize, given, String.toList_ofList, Text.upperChar, if_pos here, List.singleton_append]
  empty given := by
    rw [given]
    rfl

theorem Raises.lower {name raised : String} (raises : Raises name raised)
    (ascii : Text.IsAscii name.toList) : Text.lower raised = Text.lower name := by
  cases letters : name.toList with
  | nil =>
      have empty : name = "" := String.toList_eq_nil_iff.mp letters
      rw [raises.empty empty, empty]
  | cons c rest =>
      rw [letters] at ascii
      have here : c.toNat < 128 := ascii c List.mem_cons_self
      obtain ⟨capital, same⟩ := Text.toLower_toUpper here
      have raisedAscii : Text.IsAscii (c.toUpper :: rest) :=
        List.forall_mem_cons.mpr ⟨capital, (List.forall_mem_cons.mp ascii).2⟩
      rw [Text.lower, Text.lower, raises.ascii c rest letters here, letters,
        Text.lowerChars_ascii ascii, Text.lowerChars_ascii raisedAscii, List.map_cons, same,
        List.map_cons]

theorem controller_of_documented {routes : List Route} {route : Route}
    (member : route ∈ documented routes) : ∃ controller, route.controller = some controller := by
  have handled := (List.mem_filter.mp member).2
  rw [Route.isDynamic] at handled
  cases named : route.controller with
  | none =>
      rw [named] at handled
      cases handled
  | some controller => exact ⟨controller, rfl⟩

theorem ascii_controllerName {route : Route} {controller : ClassName}
    (handled : route.controller = some controller) (ascii : Text.IsAscii controller.name.toList) :
    Text.IsAscii (App.controllerName route).toList := by
  intro c member
  rw [App.controllerName, handled, String.toList_ofList] at member
  exact ascii c (App.mem_of_mem_baseName member)

def tagNamesIn (document : Value) : List (Option Value) :=
  match document.lookup? "tags" with
  | some (.list tags) => tags.map (lookup? "name")
  | _ => []

theorem tagNamesIn_toOpenApi (d : Document) :
    tagNamesIn d.toOpenApi = d.tags.map fun entry => some (.text entry.2.name) := by
  have shown : d.toOpenApi.lookup? "tags" =
      some (.list (d.tags.map fun entry => entry.2.toOpenApi)) := by
    rw [toOpenApi, lookup?, entryOf?_append, entryOf?_append, entryOf?_cons, if_neg (by decide),
      entryOf?_cons, if_neg (by decide), Value.entryOf?_nil, Option.none_or, listEntry]
    split
    · rw [Value.entryOf?_nil, Option.none_or, entryOf?_cons, if_neg (by decide), entryOf?_cons,
        if_pos rfl]
    · rw [entryOf?_cons, if_neg (by decide), Value.entryOf?_nil, Option.none_or, entryOf?_cons,
        if_neg (by decide), entryOf?_cons, if_pos rfl]
  rw [tagNamesIn, shown]
  dsimp only
  rw [List.map_map]
  refine List.map_congr_left fun entry _ => ?_
  rw [Function.comp_apply, Tag.toOpenApi, lookup?, entryOf?_cons, if_pos rfl]

theorem lookup?_tags {o : Operation} {name : String} (single : o.tags = [name]) :
    o.toOpenApi.lookup? "tags" = some (.list [.text name]) := by
  have listed : listEntry "tags" (o.tags.map .text) = [entry "tags" (.list [.text name])] := by
    rw [single]
    rfl
  simp only [Operation.toOpenApi, lookup?, List.append_assoc]
  rw [entryOf?_append, entryOf?_cons, if_neg (by decide), Value.entryOf?_nil, Option.none_or,
    entryOf?_append, listed, entryOf?_cons, if_pos rfl, Option.some_or]

/-! Documents. -/

/-- The tags of a document are those that its routes make, and its operations go by them. -/
structure Registered (routes : List Route) (d : Document) : Prop where
  keys : d.tags.map Prod.fst = ((documented routes).map tagKey).eraseDups
  spelled : ∀ key tag, (key, tag) ∈ d.tags → ∃ before route later,
    documented routes = before ++ route :: later ∧ (∀ earlier ∈ before, tagKey earlier ≠ key) ∧
      tagKey route = key ∧ Raises (App.controllerName route) tag.name
  shown : tagNamesIn d.toOpenApi = d.tags.map fun entry => some (.text entry.2.name)
  distinct : (∀ route ∈ documented routes, ∀ controller, route.controller = some controller →
    Text.IsAscii controller.name.toList) →
      (d.tags.map fun entry => Text.lower entry.2.name).Nodup
  carried : ∀ path method operation, d.operationAt? path method = some operation →
    ∃ before route tag, First routes before route path method ∧
      d.tags.lookup (tagKey route) = some tag ∧ operation.tags = [tag.name] ∧
        operation.toOpenApi.lookup? "tags" = some (.list [.text tag.name])

section

variable {app : App} {s : Rule.Setting} {start d : Document} {run last : Run}
  {routes : List Route}

theorem tag_of_partsOf {tags : List (String × Tag)} {index : Nat} {route : Route}
    {parts : RouteParts} (found : after (partsOf app s tags index route) run = (.ok parts, last)) :
    parts.tag = ((addTag tags route).lookup (tagKey route)).getD (tagFor route) := by
  rw [partsOf_eq] at found
  obtain ⟨request, _, _, found⟩ := Action.after_bind_ok found
  obtain ⟨asked, _, _, found⟩ := Action.after_bind_ok found
  obtain ⟨answered, _, _, found⟩ := Action.after_bind_ok found
  cases found
  rfl

theorem tags_of_addRoutes (none_ : start.tags = []) (routes : List Route)
    (added : after (addRoutes app s routes start) run = (.ok d, last)) :
    d.tags = registry (documented routes) := by
  induction routes using List.reverseRecOn generalizing d last with
  | nil =>
      cases added
      exact none_
  | append_singleton routes route induction =>
      rw [addRoutes_concat] at added
      obtain ⟨made, between, before, here⟩ := Action.after_bind_ok added
      cases handled : route.isDynamic with
      | true =>
          rw [addRouteOrSkip_of_dynamic handled] at here
          cases here
          rw [documented_concat_dynamic handled, induction before]
      | false =>
          rw [addRouteOrSkip_of_handled handled] at here
          obtain ⟨parts, later, _, rfl, _⟩ := after_addRoute here
          rw [documented_concat handled, registry, List.foldl_concat, ← registry,
            ← induction before]
          rfl

/-- Later routes leave the tag that a route goes by. -/
theorem tag_of_makes (none_ : start.tags = []) {before : List Route} {route : Route}
    {method : String} {operation : Operation} (handled : route.isDynamic = false)
    (place : before ++ [route] <+: routes)
    (makes : Makes app s start run before route method operation) :
    ∃ tag, (registry (documented routes)).lookup (tagKey route) = some tag ∧
      operation.tags = [tag.name] := by
  obtain ⟨d, between, parts, later, added, found, rfl⟩ := makes
  obtain ⟨more, rfl⟩ := place
  have made : addTag d.tags route = registry (documented (before ++ [route])) := by
    rw [tags_of_addRoutes none_ before added, documented_concat handled, registry, registry,
      List.foldl_concat]
  obtain ⟨first, isFirst⟩ : ∃ first,
      (documented (before ++ [route])).find? (fun other => tagKey other == tagKey route) =
        some first := by
    refine Option.isSome_iff_exists.mp (List.find?_isSome.mpr ⟨route, ?_, by simp⟩)
    rw [documented_concat handled]
    exact List.mem_append_right _ List.mem_cons_self
  -- The first route with the key is among those so far, so that no later one comes before it.
  refine ⟨tagFor first, ?_, ?_⟩
  · rw [lookup_registry, documented, List.filter_append, ← documented, List.find?_append, isFirst]
    rfl
  · rw [operationFor, tag_of_partsOf found, made, lookup_registry, isFirst]
    rfl

theorem registered_of_addRoutes (empty : start.paths = []) (none_ : start.tags = [])
    (added : after (addRoutes app s routes start) run = (.ok d, last)) : Registered routes d := by
  have tags := tags_of_addRoutes none_ routes added
  have keys : d.tags.map Prod.fst = ((documented routes).map tagKey).eraseDups := by
    rw [tags, keys_registry]
  have spelled : ∀ key tag, (key, tag) ∈ d.tags → ∃ before route later,
      documented routes = before ++ route :: later ∧ (∀ earlier ∈ before, tagKey earlier ≠ key) ∧
        tagKey route = key ∧ Raises (App.controllerName route) tag.name := by
    intro key tag member
    rw [tags] at member
    obtain ⟨route, first, rfl⟩ := mem_registry.mp member
    obtain ⟨same, before, later, place, others⟩ := List.find?_eq_some_iff_append.mp first
    exact ⟨before, route, later, place, fun earlier among => by simpa using others earlier among,
      eq_of_beq same, raises_capitalize _⟩
  refine ⟨keys, spelled, tagNamesIn_toOpenApi d, fun ascii => ?_, ?_⟩
  -- In ASCII the first letter that was raised comes down again, and leaves the key.
  · have lowered : (d.tags.map fun entry => Text.lower entry.2.name) = d.tags.map Prod.fst := by
      refine List.map_congr_left fun (key, tag) member => ?_
      obtain ⟨before, route, later, place, _, same, raises⟩ := spelled key tag member
      have among : route ∈ documented routes := by
        rw [place]
        exact List.mem_append_right _ List.mem_cons_self
      obtain ⟨controller, handled⟩ := controller_of_documented among
      dsimp only
      exact (raises.lower (ascii_controllerName handled (ascii route among _ handled))).trans same
    rw [lowered, keys]
    exact Keys.nodup_eraseDups _
  · intro path method operation held
    obtain ⟨before, route, isFirst, makes⟩ :=
      (assembled_of_addRoutes empty routes added).made path method operation held
    obtain ⟨tag, found, single⟩ := tag_of_makes none_ isFirst.declares.handled isFirst.place makes
    exact ⟨before, route, tag, isFirst, tags ▸ found, single, lookup?_tags single⟩

end

theorem generate_registered {app : App} {source : Source} {config : Config} {now : Moment}
    {run last : Run} {d : Document}
    (generated : after (generate app source config now) run = (.ok d, last)) :
    Registered app.routes d := by
  obtain ⟨between, added, _⟩ := addRoutes_of_generate generated
  exact registered_of_addRoutes rfl rfl added

/-! Two controllers whose names differ in letters only. The first begins with a small one. -/

def members : App where
  ownClasses :=
    [{ name := ⟨"app", "memberController"⟩, methods := [("show", {})] },
     { name := ⟨"app", "MEMBERController"⟩, methods := [("show", {})] },
     { name := ⟨"app", "ClubController"⟩, methods := [("show", {})] }]
  routes :=
    [{ uri := "ping", methods := ["GET"], action := "MemBerController" },
     { uri := "members", methods := ["GET"], controller := some ⟨"app", "memberController"⟩
       action := "show" },
     { uri := "clubs", methods := ["GET"], controller := some ⟨"app", "ClubController"⟩
       action := "show" },
     { uri := "guests", methods := ["GET"], controller := some ⟨"app", "MEMBERController"⟩
       action := "show" }]

theorem registered_members : ∃ d last,
    after (generate members .counting {} noon) {} = (.ok d, last) ∧
      (d.tags.map fun entry => entry.2.name) = ["Member", "Club"] ∧
      (d.operationAt? "/guests" "GET").map Operation.tags = some ["Member"] ∧
      Registered members.routes d ∧ (d.tags.map fun entry => Text.lower entry.2.name).Nodup := by
  obtain ⟨d, last, generated, seen⟩ := @Action.exists_of_seen _ _
    (generate members .counting {} noon) {}
    (fun d => (d.tags.map fun entry => entry.2.name,
      (d.operationAt? "/guests" "GET").map Operation.tags))
    (["Member", "Club"], some ["Member"]) (by decide +kernel)
  obtain ⟨named, shared⟩ := Prod.mk.inj seen
  have registered := generate_registered generated
  refine ⟨d, last, generated, named, shared, registered, registered.distinct ?_⟩
  intro route member controller handled
  simp only [documented, members, Route.isDynamic, List.mem_filter, List.mem_cons,
    List.not_mem_nil, or_false] at member
  rcases member.1 with rfl | rfl | rfl | rfl <;> cases handled <;> decide

end Document
end RouteDocs
