import Mathlib
import RouteDocs.Proofs.Document.Assembled
import RouteDocs.Proofs.Keys
import RouteDocs.Proofs.Schema.Shown

/-!
The responses that a route documents. Every method shows the first response for each status, the
default one before the declared errors; a method without bodies shows the same ones bare.
-/

namespace RouteDocs

open RouteDocs.Action (after)
open Schema (Node Entries entry)
open Value (entryOf? lookup? entryOf?_append entryOf?_cons entryOf?_of_keywords)

namespace Document

/-! The first response for each status. -/

theorem statuses_firstByStatus (seen : List Int) (responses : List Response) :
    (firstByStatus seen responses).map Response.status =
      ((responses.map Response.status).filter fun status => !seen.contains status).eraseDups := by
  induction responses generalizing seen with
  | nil => rfl
  | cons r rest induction =>
      rw [firstByStatus, List.map_cons, List.filter_cons]
      split
      · rename_i known
        rw [induction, if_neg (by simpa using known)]
      · rename_i new
        rw [if_pos (by simpa using new), List.map_cons, induction, List.eraseDups_cons,
          List.filter_filter]
        congr 3
        funext status
        by_cases same : status = r.status <;> simp [same]

theorem mem_firstByStatus {seen : List Int} {responses : List Response} {r : Response} :
    r ∈ firstByStatus seen responses ↔
      r.status ∉ seen ∧ responses.find? (fun other => other.status == r.status) = some r := by
  induction responses generalizing seen with
  | nil => simp [firstByStatus]
  | cons head rest induction =>
      rw [firstByStatus]
      split
      · rename_i known
        rw [List.contains_iff_mem] at known
        rw [induction]
        by_cases same : head.status = r.status
        · exact iff_of_false (fun both => both.1 (same ▸ known)) fun both => both.1 (same ▸ known)
        · rw [List.find?_cons_of_neg (by simpa using same)]
      · rename_i new
        rw [List.contains_iff_mem] at new
        rw [List.mem_cons, induction]
        by_cases same : head.status = r.status
        · rw [List.find?_cons_of_pos (by simpa using same)]
          constructor
          · rintro (rfl | ⟨fresh, _⟩)
            · exact ⟨new, rfl⟩
            · exact absurd (by simp [same]) fresh
          · rintro ⟨_, first⟩
            exact .inl (Option.some.inj first).symm
        · rw [List.find?_cons_of_neg (by simpa using same), List.mem_cons, not_or]
          constructor
          · rintro (rfl | ⟨fresh, first⟩)
            · exact absurd rfl same
            · exact ⟨fresh.2, first⟩
          · rintro ⟨fresh, first⟩
            exact .inr ⟨⟨Ne.symm same, fresh⟩, first⟩

theorem nodup_firstByStatus (seen : List Int) (responses : List Response) :
    ((firstByStatus seen responses).map Response.status).Nodup := by
  induction responses generalizing seen with
  | nil => exact List.nodup_nil
  | cons r rest induction =>
      rw [firstByStatus]
      split
      · exact induction seen
      · refine List.nodup_cons.mpr ⟨fun member => ?_, induction _⟩
        obtain ⟨later, among, same⟩ := List.mem_map.mp member
        exact (mem_firstByStatus.mp among).1 (by simp [same])

/-! Rendered operations. -/

def responsesIn (operation : Value) : Entries :=
  match operation.lookup? "responses" with
  | some (.map responses) => responses
  | _ => []

theorem keyword_of_listEntry {keyword : String} {items : List Value} {shown : Value × Value}
    (member : shown ∈ listEntry keyword items) : shown.1 = .text keyword := by
  rw [listEntry] at member
  split at member
  · cases member
  · rw [List.mem_singleton.mp member]
    rfl

def operationKeywords : List String :=
  ["operationId", "tags", "summary", "description", "parameters", "requestBody"]

theorem lookup?_responses (o : Operation) :
    o.toOpenApi.lookup? "responses" = some (responsesValue o.responses) := by
  rw [Operation.toOpenApi, lookup?, entryOf?_append, entryOf?_cons, if_pos rfl,
    @entryOf?_of_keywords _ operationKeywords _ ?known (by decide), Option.none_or]
  intro shown member
  simp only [List.mem_append] at member
  rcases member with ((((id | tags) | summary) | description) | parameters) | body
  · exact ⟨_, by decide, congrArg Prod.fst (List.mem_singleton.mp id)⟩
  · exact ⟨_, by decide, keyword_of_listEntry tags⟩
  · exact ⟨_, by decide, Schema.keyword_of_textEntry summary⟩
  · exact ⟨_, by decide, Schema.keyword_of_textEntry description⟩
  · exact ⟨_, by decide, keyword_of_listEntry parameters⟩
  · split at body
    · cases body
    · exact ⟨_, by decide, congrArg Prod.fst (List.mem_singleton.mp body)⟩

theorem responsesIn_nil {o : Operation} (none_ : o.responses = []) :
    responsesIn o.toOpenApi =
      [entry "default" (.map [entry "description" (.text "Unspecified response")])] := by
  rw [responsesIn, lookup?_responses, none_]
  rfl

theorem responsesIn_of_some {o : Operation} (some_ : o.responses ≠ []) :
    responsesIn o.toOpenApi =
      (firstByStatus [] o.responses).map fun r => entry (toString r.status) r.toOpenApi := by
  rw [responsesIn, lookup?_responses]
  cases given : o.responses with
  | nil => exact absurd given some_
  | cons first rest => rfl

theorem toString_ne_default (status : Int) : toString status ≠ "default" := by
  intro same
  -- A status is written in digits, with a sign at most.
  have shown : 'd' ∈ (toString status).toList := by
    rw [same]
    decide
  cases status with
  | ofNat n =>
      have digit : 'd' ∈ n.repr.toList := shown
      rw [Nat.toList_repr] at digit
      cases Nat.isDigit_of_mem_toDigits (by decide) (by decide) digit
  | negSucc n =>
      have either : 'd' ∈ ("-" ++ (n + 1).repr).toList := shown
      rw [String.toList_append, List.mem_append, Nat.toList_repr] at either
      rcases either with sign | digit
      · revert sign
        decide
      · cases Nat.isDigit_of_mem_toDigits (by decide) (by decide) digit

/-! Resolved responses as an operation shows them. -/

def Response.bare (r : Response) : Response := { r with content := none }

theorem firstByStatus_bare (seen : List Int) (responses : List Response) :
    firstByStatus seen (responses.map Response.bare) =
      (firstByStatus seen responses).map Response.bare := by
  induction responses generalizing seen with
  | nil => rfl
  | cons r rest induction =>
      rw [List.map_cons, firstByStatus, firstByStatus]
      have status : r.bare.status = r.status := rfl
      rw [status]
      split
      · exact induction seen
      · rw [induction, List.map_cons]

/-- The keys of the responses and what they are described as. -/
def labels (operation : Value) : List (Value × Option Value) :=
  (responsesIn operation).map fun shown => (shown.1, shown.2.lookup? "description")

/-- What a single response shows of the resolved one. -/
structure ShowsAnswer (r : ResolvedResponse) (method : String) (shown : Value) : Prop where
  description : shown.lookup? "description" = some (.text r.description)
  content : method ≠ "HEAD" → ∀ body, r.body = some body → shown.lookup? "content" =
    some (.map [(.text "application/json", .map [(.text "schema", body.toOpenApi)])])
  bare : method = "HEAD" ∨ r.body = none → shown.lookup? "content" = none

/-- The responses of an operation are the first ones for their statuses. -/
structure ShowsAnswers (default : Option ResolvedResponse) (errors : List ResolvedResponse)
    (method : String) (operation : Value) : Prop where
  keys : default.toList ++ errors ≠ [] → (responsesIn operation).map Prod.fst =
    ((default.toList ++ errors).map ResolvedResponse.status).eraseDups.map fun status =>
      .text (toString status)
  first : ∀ status r,
    (default.toList ++ errors).find? (fun other => other.status == status) = some r →
      ∃ shown, entryOf? (toString status) (responsesIn operation) = some shown ∧
        ShowsAnswer r method shown
  kept : ∀ r, default = some r →
    ∃ shown, entryOf? (toString r.status) (responsesIn operation) = some shown ∧
      ShowsAnswer r method shown
  unspecified : (responsesIn operation).map Prod.fst = [.text "default"] ↔
    default = none ∧ errors = []
  bare : method = "HEAD" → ∀ shown ∈ responsesIn operation, shown.2.lookup? "content" = none

section

variable {o : Operation} {answers : List ResolvedResponse} {hasBody : Bool}

theorem toString_beq (status other : Int) :
    (toString status == toString other) = (status == other) := by
  rw [Bool.eq_iff_iff, beq_iff_eq, beq_iff_eq]
  exact Int.repr_inj

theorem entryOf?_responsesIn (given : o.responses = answers.map (responseFor hasBody))
    {status : Int} {r : ResolvedResponse}
    (first : answers.find? (fun other => other.status == status) = some r) :
    entryOf? (toString status) (responsesIn o.toOpenApi) =
      some (responseFor hasBody r).toOpenApi := by
  have same : r.status = status := by simpa using List.find?_some first
  subst same
  have among : responseFor hasBody r ∈ firstByStatus [] o.responses := by
    refine mem_firstByStatus.mpr ⟨List.not_mem_nil, ?_⟩
    rw [given, List.find?_map]
    exact congrArg (Option.map (responseFor hasBody)) first
  have some_ : o.responses ≠ [] := by
    intro none_
    rw [none_] at among
    cases among
  have named : ((fun shown : Value × Value => shown.1.same (.text (toString r.status))) ∘
      fun r : Response => entry (toString r.status) r.toOpenApi) =
        fun other => other.status == r.status := by
    funext other
    rw [Function.comp_apply, entry, Value.same_text, toString_beq]
  have found := Keys.find?_of_mem (nodup_firstByStatus [] o.responses) among
  rw [responsesIn_of_some some_, entryOf?, List.find?_map, named]
  exact congrArg (Option.map Prod.snd ∘ Option.map _) found

theorem keys_responsesIn (given : o.responses = answers.map (responseFor hasBody))
    (some_ : answers ≠ []) :
    (responsesIn o.toOpenApi).map Prod.fst =
      (answers.map ResolvedResponse.status).eraseDups.map fun status =>
        .text (toString status) := by
  have statuses : (firstByStatus [] o.responses).map Response.status =
      (answers.map ResolvedResponse.status).eraseDups := by
    rw [statuses_firstByStatus, List.filter_eq_self.mpr fun _ _ => by simp, given, List.map_map]
    rfl
  rw [responsesIn_of_some (by simpa [given] using some_), List.map_map, ← statuses, List.map_map]
  rfl

theorem unspecified_iff (given : o.responses = answers.map (responseFor hasBody)) :
    (responsesIn o.toOpenApi).map Prod.fst = [.text "default"] ↔ answers = [] := by
  constructor
  · intro unspecified
    cases answers with
    | nil => rfl
    | cons r rest =>
        rw [keys_responsesIn given (List.cons_ne_nil r rest), List.map_cons, List.eraseDups_cons,
          List.map_cons, List.cons.injEq, Value.text.injEq] at unspecified
        exact absurd unspecified.1 (toString_ne_default r.status)
  · rintro rfl
    rw [responsesIn_nil given]
    rfl

theorem description_toOpenApi (r : Response) :
    r.toOpenApi.lookup? "description" = some (.text r.description) := by
  rw [Response.toOpenApi, lookup?, entryOf?_cons, if_pos rfl]

theorem content_toOpenApi (r : Response) :
    r.toOpenApi.lookup? "content" = r.content.map (mediaContent jsonMedia) := by
  rw [Response.toOpenApi, lookup?, entryOf?_cons, if_neg (by decide)]
  cases r.content with
  | none => rfl
  | some schema => exact entryOf?_cons _ _ _ _

theorem labels_of_some (some_ : o.responses ≠ []) :
    labels o.toOpenApi = (firstByStatus [] (o.responses.map Response.bare)).map fun r =>
      (.text (toString r.status), some (.text r.description)) := by
  rw [labels, responsesIn_of_some some_, firstByStatus_bare, List.map_map, List.map_map]
  exact List.map_congr_left fun r _ => congrArg (Prod.mk _) (description_toOpenApi r)

theorem labels_eq_of_bare {other : Operation}
    (same : o.responses.map Response.bare = other.responses.map Response.bare) :
    labels o.toOpenApi = labels other.toOpenApi := by
  by_cases none_ : o.responses = []
  · have others : other.responses = [] := by simpa [none_] using same
    rw [labels, labels, responsesIn_nil none_, responsesIn_nil others]
  · have others : other.responses ≠ [] := by
      intro others
      exact none_ (by simpa [others] using same)
    rw [labels_of_some none_, labels_of_some others, same]

theorem content_responsesIn (bare : ∀ r ∈ o.responses, r.content = none) {shown : Value × Value}
    (member : shown ∈ responsesIn o.toOpenApi) : shown.2.lookup? "content" = none := by
  by_cases none_ : o.responses = []
  · rw [responsesIn_nil none_, List.mem_singleton] at member
    rw [member]
    exact (entryOf?_cons _ _ _ _).trans (if_neg (by decide))
  · rw [responsesIn_of_some none_] at member
    obtain ⟨r, among, rfl⟩ := List.mem_map.mp member
    have first := (mem_firstByStatus.mp among).2
    show r.toOpenApi.lookup? "content" = none
    rw [content_toOpenApi, bare r (List.mem_of_find?_eq_some first)]
    rfl

theorem showsAnswer_responseFor (r : ResolvedResponse) (method : String) :
    ShowsAnswer r method (responseFor (!isBodiless method) r).toOpenApi where
  description := description_toOpenApi _
  content other body resolved := by
    rw [content_toOpenApi, responseFor, isBodiless, beq_false_of_ne other, Bool.not_false,
      if_pos rfl, resolved]
    rfl
  bare without := by
    rw [content_toOpenApi, responseFor, isBodiless]
    rcases without with rfl | none_
    · rfl
    · rw [none_, ite_self]
      rfl

end

variable (route : Route) (parts : RouteParts)

theorem showsAnswers_operationFor (method : String) :
    ShowsAnswers parts.default parts.errors method (operationFor route parts method).toOpenApi where
  keys := keys_responsesIn rfl
  first status r first := ⟨_, entryOf?_responsesIn rfl first, showsAnswer_responseFor r method⟩
  kept r default := by
    refine ⟨_, entryOf?_responsesIn rfl ?_, showsAnswer_responseFor r method⟩
    rw [default, Option.toList_some, List.singleton_append]
    exact List.find?_cons_of_pos (beq_self_eq_true r.status)
  unspecified := by
    rw [unspecified_iff rfl, List.append_eq_nil_iff, Option.toList_eq_nil_iff]
  bare head shown member := by
    refine content_responsesIn (fun r among => ?_) member
    obtain ⟨resolved, _, rfl⟩ := List.mem_map.mp among
    rw [head]
    rfl

/-- A method without bodies shows the responses of the others, bare. -/
theorem labels_operationFor (method other : String) :
    labels (operationFor route parts method).toOpenApi =
      labels (operationFor route parts other).toOpenApi := by
  refine labels_eq_of_bare ?_
  rw [operationFor, operationFor, List.map_map, List.map_map]
  rfl

/-! The operations that a route adds. -/

/-- The default response of a route and its errors, resolved in the order of the handler's
docstring. -/
structure Resolves (app : App) (route : Route) (default : Option ResolvedResponse)
    (errors : List ResolvedResponse) : Prop where
  default : match app.responseType? route with
    | none => default = none
    | some type => ∃ r run last, default = some r ∧
        after (Response.resolve app type true (some route.uri)) run = (.ok r, last)
  errors : ∃ declared run between last,
    after (declaredErrors app route) run = (.ok declared, between) ∧
      after (declared.mapM fun error => Response.resolveError app error (some route.uri)) between =
        (.ok errors, last)

/-- The operation is there now, and was not before. -/
structure Creates (d made : Document) (path method : String) (operation : Operation) : Prop where
  before : d.operationAt? path method = none
  after : made.operationAt? path method = some operation

/-- What every operation that a route adds shows of the same resolved responses. -/
structure Answers (d made : Document) (route : Route) (default : Option ResolvedResponse)
    (errors : List ResolvedResponse) : Prop where
  created : ∀ path method, (∃ operation, Creates d made path method operation) ↔
    d.operationAt? path method = none ∧ pathOf route = path ∧ method ∈ route.methods
  shown : ∀ path method operation, Creates d made path method operation →
    ShowsAnswers default errors method operation.toOpenApi
  mirrored : ∀ path method operation, Creates d made path method operation →
    ∀ otherPath otherMethod other, Creates d made otherPath otherMethod other →
      labels operation.toOpenApi = labels other.toOpenApi

section

variable {app : App} {s : Rule.Setting} {tags : List (String × Tag)} {d made : Document}
  {index : Nat} {route : Route} {parts : RouteParts} {run last : Run}

theorem resolves_of_partsOf
    (found : after (partsOf app s tags index route) run = (.ok parts, last)) :
    Resolves app route parts.default parts.errors := by
  rw [partsOf_eq] at found
  obtain ⟨request, _, _, found⟩ := Action.after_bind_ok found
  obtain ⟨asked, _, _, found⟩ := Action.after_bind_ok found
  obtain ⟨answered, _, answering, found⟩ := Action.after_bind_ok found
  cases found
  obtain ⟨default, asked, defaulted, answering⟩ := Action.after_bind_ok answering
  obtain ⟨declared, between, listed, answering⟩ := Action.after_bind_ok answering
  obtain ⟨errors, _, resolved, answering⟩ := Action.after_bind_ok answering
  cases answering
  refine ⟨?_, declared, asked, between, _, listed, resolved⟩
  unfold defaultAnswer at defaulted
  cases type : app.responseType? route with
  | none =>
      rw [type] at defaulted
      cases defaulted
      rfl
  | some answer =>
      rw [type] at defaulted
      obtain ⟨r, _, resolved, defaulted⟩ := Action.after_bind_ok defaulted
      cases defaulted
      exact ⟨r, _, _, rfl, resolved⟩

theorem creates_withRoute {path method : String} {operation : Operation} :
    Creates d (withRoute d route parts) path method operation ↔
      d.operationAt? path method = none ∧ (pathOf route = path ∧ method ∈ route.methods) ∧
        operation = operationFor route parts method := by
  constructor
  · rintro ⟨before, held⟩
    rcases (operationAt?_withRoute_eq_some d route parts).mp held with old | new
    · rw [before] at old
      cases old
    · exact new
  · intro new
    exact ⟨new.1, (operationAt?_withRoute_eq_some d route parts).mpr (.inr new)⟩

theorem answers_withRoute (d : Document) (route : Route) (parts : RouteParts) :
    Answers d (withRoute d route parts) route parts.default parts.errors where
  created path method := by simp only [creates_withRoute, exists_and_left, exists_eq, and_true]
  shown path method operation creates := by
    obtain ⟨_, _, rfl⟩ := creates_withRoute.mp creates
    exact showsAnswers_operationFor route parts method
  mirrored path method operation creates otherPath otherMethod other mirrors := by
    obtain ⟨_, _, rfl⟩ := creates_withRoute.mp creates
    obtain ⟨_, _, rfl⟩ := creates_withRoute.mp mirrors
    exact labels_operationFor route parts method otherMethod

end

/-! An error that has the status of the default response. -/

def shelfController : ClassName := ⟨"app", "ShelfController"⟩

def shelfView : ClassName := ⟨"app", "ShelfView"⟩

def missing : ClassName := ⟨"app", "Missing"⟩

def merged : ClassName := ⟨"app", "Merged"⟩

def shelves : App where
  ownClasses :=
    [{ name := shelfController
       methods :=
         [("show",
           { returns := some "ShelfView", doc := some "Raises:\n    Merged\n    Missing" })] },
     { name := merged, parent := some (Builtin.className "Exception")
       attributes := [("status_code", .int 200)] },
     { name := missing, parent := some (Builtin.className "Exception")
       attributes := [("status_code", .int 404)] },
     { name := shelfView, parent := some Contract.responseName
       constructor := some { data := .value (.map [(.text "size", .int 3)]) } }]
  names := [("ShelfView", .type shelfView), ("Merged", .type merged), ("Missing", .type missing)]

def shelfRoute : Route :=
  { uri := "shelf", methods := ["GET", "HEAD"], controller := some shelfController
    action := "show" }

/-- The properties of the schema that a content has for the media type, with their examples. -/
def examplesIn (content : Value) : List (String × Option String) :=
  let keys := ["application/json", "schema", "properties"]
  match keys.foldlM (fun held key => lookup? key held) content with
  | some (.map properties) => properties.map fun (name, property) =>
      (name.display, (property.lookup? "example").map Value.display)
  | _ => []

/-- The responses of the operations on the shelf, with the examples of those that have content. -/
def shelfShown (made : Document) : List (String × Option (List (String × Option String))) :=
  ["GET", "HEAD"].flatMap fun method =>
    (made.operationAt? "/shelf" method).toList.flatMap fun operation =>
      (responsesIn operation.toOpenApi).map fun (status, shown) =>
        (method ++ " " ++ status.display, (shown.lookup? "content").map examplesIn)

end Document
end RouteDocs
