import Mathlib.Algebra.GroupWithZero.Nat
import RouteDocs.Proofs.App.Ends
import RouteDocs.Proofs.Response.Transparency

/-!
What the steps of a resolver are made of. What holds of each of these parts, and of one step
after the other, holds of all that a resolver does.
-/

namespace RouteDocs.Response

open Schema (Node)
open Relation (TransGen ReflTransGen)
open RouteDocs.Action (after)

/-- Computing a schema does not come back to its own class, and the schema of a collection is
there no sooner than that of its resource. -/
structure Fits (app : App) (type : ClassName) (inner : ClassName → Prop) (compute : Action Node) :
    Prop where
  apart : ¬ inner type
  collected : ∀ resource, app.isCollection type = true → app.collected? type = some resource →
    ∀ run node last, after compute run = (.ok node, last) → last.shapes.contains resource = true

/-- The step asks for the schemas of the classes in the scope alone, fails in the given ways
alone, and makes so many samples outside of the schemas if it does not fail. -/
inductive Documents (app : App) (fails : Failure → Prop) :
    (scope : ClassName → Prop) → (samples : Nat) → {α : Type} → Action α → Prop
  | lift {scope : ClassName → Prop} {α : Type} {outcome : Outcome α}
      (allowed : ∀ failure, outcome = .error failure → fails failure) :
      Documents app fails scope 0 (Action.lift outcome)
  | fail {scope : ClassName → Prop} {samples : Nat} {α : Type} {failure : Failure}
      (allowed : fails failure) : Documents app fails scope samples (throw failure : Action α)
  | sampling {scope : ClassName → Prop} :
      Documents app fails scope 1
        (modifyThe Run fun run => { run with samplings := run.samplings + 1 })
  | bind {scope : ClassName → Prop} {early late : Nat} {α β : Type} {step : Action α}
      {next : α → Action β} (first : Documents app fails scope early step)
      (follows : ∀ a run last, after step run = (.ok a, last) →
        Documents app fails scope late (next a)) :
      Documents app fails scope (early + late) (step >>= next)
  | shape {scope inner : ClassName → Prop} {own : Nat} {type : ClassName} {compute : Action Node}
      (asked : scope type) (within : ∀ other, inner other → scope other) (once : own ≤ 1)
      (computes : Documents app fails inner own compute)
      (fits : Regular app → Fits app type inner compute) :
      Documents app fails scope 0 (shapeOf type compute)

theorem Documents.mono {app : App} {fails : Failure → Prop} {scope larger : ClassName → Prop}
    {samples : Nat} {α : Type} {step : Action α} (documents : Documents app fails scope samples step)
    (within : ∀ type, scope type → larger type) : Documents app fails larger samples step := by
  induction documents generalizing larger with
  | lift allowed => exact .lift allowed
  | fail allowed => exact .fail allowed
  | sampling => exact .sampling
  | bind _ _ first follows =>
      exact .bind (first within) fun a run last ran => follows a run last ran within
  | shape asked inside once computes fits _ =>
      exact .shape (within _ asked) (fun other member => within other (inside other member)) once
        computes fits

section

variable {app : App} {run last : Run}

theorem after_sample (entity : ClassName) (count : Nat) (run : Run) :
    (after (sample app entity count) run).1 = samplesOf app entity count := by
  unfold sample samplesOf
  cases Entity.factory? app entity with
  | none => rfl
  | some factory =>
      dsimp only
      rw [Action.after_bind, Action.after_modify]
      dsimp only
      rw [Action.after_lift]

theorem samplesOf_of_after {entity : ClassName} {count : Nat} {samples : List Entity}
    (ran : after (sample app entity count) run = (.ok samples, last)) :
    samplesOf app entity count = .ok samples := by
  rw [← after_sample entity count run, ran]

theorem firstOf_of_after {entity : ClassName} {first : Entity}
    (ran : after (firstSample app entity) run = (.ok first, last)) :
    firstOf app entity = .ok first := by
  obtain ⟨samples, between, made, picks⟩ := Action.after_bind_ok ran
  unfold firstOf
  rw [samplesOf_of_after made]
  cases samples with
  | nil => cases picks
  | cons sample rest =>
      cases picks
      rfl

theorem find?_of_after_shapeOf {type : ClassName} {compute : Action Node} {node : Node}
    (ran : after (shapeOf type compute) run = (.ok node, last)) :
    last.shapes.find? type = some node := by
  rcases after_shapeOf_ok ran with ⟨found, rfl⟩ | ⟨_, between, _, rfl⟩
  · exact found
  · rw [ShapeCache.find?_put, beq_self_eq_true]
    rfl

end

/-! The steps of the resolver, from the smallest on. -/

section

variable {app : App} {fails : Failure → Prop}
  (others : ∀ failure, failure ≠ .exhaustion → fails failure)
include others

theorem documents_ends {scope : ClassName → Prop} {α : Type} {outcome : Outcome α}
    (ends : outcome.Ends) : Documents app fails scope 0 (Action.lift outcome) :=
  .lift fun _ failed => others _ (ends.ne failed)

theorem documents_bind_lift {scope : ClassName → Prop} {samples : Nat} {α β : Type}
    {outcome : Outcome α} {next : α → Action β} (ends : outcome.Ends)
    (follows : ∀ a, outcome = .ok a → Documents app fails scope samples (next a)) :
    Documents app fails scope samples (Action.lift outcome >>= next) := by
  rw [← Nat.zero_add samples]
  refine .bind (documents_ends others ends) fun a run last ran => follows a ?_
  rw [Action.after_lift] at ran
  exact congrArg Prod.fst ran

theorem documents_pure {scope : ClassName → Prop} {α : Type} (a : α) :
    Documents app fails scope 0 (pure a) :=
  documents_ends others (Outcome.ends_ok a)

theorem documents_throw {scope : ClassName → Prop} {samples : Nat} {α : Type} {failure : Failure}
    (other : failure ≠ .exhaustion) :
    Documents app fails scope samples (throw failure : Action α) :=
  .fail (others _ other)

theorem documents_sample {scope : ClassName → Prop} (entity : ClassName) (count : Nat) :
    Documents app fails scope 1 (sample app entity count) := by
  unfold sample
  split
  · exact documents_throw others nofun
  · exact .bind .sampling fun _ _ _ _ =>
      documents_ends others (Entity.ends_samples app entity _ count)

theorem documents_firstSample {scope : ClassName → Prop} (entity : ClassName) :
    Documents app fails scope 1 (firstSample app entity) := by
  show Documents app fails scope (1 + 0) (sample app entity 1 >>= _)
  refine .bind (documents_sample others entity 1) fun samples _ _ _ => ?_
  split
  · exact documents_throw others nofun
  · exact documents_pure others _

variable {scope : ClassName → Prop} {convert : Convert}

mutual

theorem documents_inferWith : (name : Option String) → (value : Value) →
    (∀ type, value.Contains type → ∀ name, Documents app fails scope 0 (convert name type)) →
    Documents app fails scope 0 (Node.inferWith convert name value)
  | _, .bool _, _ => documents_pure others _
  | _, .int _, _ => documents_pure others _
  | _, .real _, _ => documents_pure others _
  | _, .text _, _ => documents_pure others _
  | _, .null, _ => documents_pure others _
  | _, .map entries, converts =>
      .bind (documents_inferEntries entries fun entry member type inside =>
        converts type (.map member inside)) fun _ _ _ _ => documents_pure others _
  | _, .view entries, converts =>
      .bind (documents_inferEntries entries fun entry member type inside =>
        converts type (.view member inside)) fun _ _ _ _ => documents_pure others _
  | name, .list items, converts =>
      documents_inferFirst name items fun item member type inside =>
        converts type (.list member inside)
  | name, .tuple items, converts =>
      documents_inferFirst name items fun item member type inside =>
        converts type (.tuple member inside)
  | _, .range start stop, _ => by
      rw [Node.inferWith]
      split
      · exact documents_pure others _
      · exact documents_throw others nofun
  | name, .rendering type, converts => converts type .rendering name
  | name, .kept _ value, converts =>
      documents_inferWith name value fun type inside => converts type (.kept inside)
  | _, .bytes _ _, _ => documents_throw others nofun
  | _, .set _, _ => documents_throw others nofun
  | _, .date _, _ => documents_throw others nofun
  | _, .moment _, _ => documents_throw others nofun
  | _, .object _, _ => documents_throw others nofun

theorem documents_inferFirst : (name : Option String) → (items : List Value) →
    (∀ item ∈ items, ∀ type, item.Contains type →
      ∀ name, Documents app fails scope 0 (convert name type)) →
    Documents app fails scope 0 (Node.inferFirst convert name items)
  | _, [], _ => documents_throw others nofun
  | _, first :: _, converts =>
      .bind (documents_inferWith none first (converts first List.mem_cons_self))
        fun _ _ _ _ => documents_pure others _

theorem documents_inferEntries : (entries : List (Value × Value)) →
    (∀ entry ∈ entries, ∀ type, entry.2.Contains type →
      ∀ name, Documents app fails scope 0 (convert name type)) →
    Documents app fails scope 0 (Node.inferEntries convert entries)
  | [], _ => documents_pure others _
  | (key, value) :: rest, converts =>
      .bind (documents_inferWith (some key.display) value (converts (key, value) List.mem_cons_self))
        fun _ _ _ _ =>
          .bind (documents_inferEntries rest fun entry member =>
            converts entry (List.mem_cons_of_mem _ member)) fun _ _ _ _ => documents_pure others _

end

/-- What is nested in a class is converted by asking for nothing but what is nested there. -/
def Documented (app : App) (fails : Failure → Prop) (convert : Convert) (outer : ClassName) : Prop :=
  ∀ inner, TransGen (Nests app) outer inner → ∀ name,
    Documents app fails (ReflTransGen (Nests app) inner) 0 (convert name inner)

omit others in
theorem Documented.inner {outer inner : ClassName} (converts : Documented app fails convert outer)
    (nests : TransGen (Nests app) outer inner) (name : Option String) :
    Documents app fails (TransGen (Nests app) outer) 0 (convert name inner) :=
  (converts inner nests name).mono fun _ reaches => TransGen.trans_left nests reaches

theorem documents_resourceShape {resource : ClassName}
    (converts : Documented app fails convert resource) :
    Documents app fails (ReflTransGen (Nests app) resource) 0
      (resourceShape app convert resource) := by
  refine documents_bind_lift others (ends_entityOf app resource) fun entity shows => ?_
  refine .shape .refl (fun _ nests => nests.to_reflTransGen) (Nat.le_refl 1) ?_ fun regular =>
    ⟨regular.acyclic resource, ?_⟩
  · show Documents app fails _ (1 + 0) (firstSample app entity >>= _)
    refine .bind (documents_firstSample others entity) fun sample _ _ made => ?_
    refine documents_bind_lift others (app.ends_contentOf resource sample) fun content renders => ?_
    have shown : shownBy app resource = .ok content := by
      rw [shownBy_of_entity shows, firstOf_of_after made]
      exact renders
    exact documents_inferWith others none content fun inner inside =>
      converts.inner (.single (.shown shown inside))
  · intro _ isCollection
    rw [regular.keepsContract.isCollection_eq_false (isResource_of_entityOf shows)] at isCollection
    cases isCollection

/-- The items of a collection are asked for under the name of their resource. -/
theorem documents_item {collection resource entity : ClassName} {items : Value}
    {first? : Option Value}
    (converts : Documented app fails convert collection)
    (isCollection : app.isCollection collection = true)
    (collects : app.collected? collection = some resource)
    (shows : entityOf app resource = .ok entity)
    (lists : listedBy app collection resource = .ok items) (found : firstItem items = .ok first?) :
    Documents app fails (TransGen (Nests app) collection) 0
      (match first? with
        | none => do pure (Node.ofArray none (← resourceShape app convert resource))
        | some first => do
            let node ← shapeOf resource (Node.inferWith convert none first)
            pure (Node.ofArray none node)) := by
  have nests : Nests app collection resource := .collected isCollection collects
  cases first? with
  | none =>
      refine .bind ?_ fun _ _ _ _ => documents_pure others _
      refine (documents_resourceShape others fun inner inside => ?_).mono fun _ reaches =>
        TransGen.head' nests reaches
      exact converts inner (.head nests inside)
  | some first =>
      refine .bind ?_ fun _ _ _ _ => documents_pure others _
      -- Only where a collection lists what its resource shows, what is nested in the first item is
      -- nested in the resource too.
      by_cases regular : Regular app
      · have shown := shownBy_of_listedBy (regular.inherits collection isCollection) collects lists found
        refine .shape (.single nests) (fun _ inside => .head nests inside) (Nat.zero_le 1) ?_
          fun _ => ⟨regular.acyclic resource, ?_⟩
        · refine documents_inferWith others none first fun inner inside name => ?_
          have below : TransGen (Nests app) resource inner := .single (.shown shown inside)
          exact (converts inner (.head nests below) name).mono fun _ reaches =>
            TransGen.trans_left below reaches
        · intro _ isCollection
          rw [regular.keepsContract.isCollection_eq_false (isResource_of_entityOf shows)]
            at isCollection
          cases isCollection
      · refine .shape (.single nests) (fun _ inside => inside) (Nat.zero_le 1) ?_
          fun other => absurd other regular
        exact documents_inferWith others none first fun inner inside =>
          converts.inner (.single (.listed isCollection collects lists
            (contains_of_firstItem found inside)))

omit others in
/-- The schema of the resource is there when that of the items is. -/
theorem contains_of_after_item {resource : ClassName} {first? : Option Value} {run last : Run}
    {node : Node}
    (ran : after
      (match first? with
        | none => do pure (Node.ofArray none (← resourceShape app convert resource))
        | some first => do
            let node ← shapeOf resource (Node.inferWith convert none first)
            pure (Node.ofArray none node)) run = (.ok node, last)) :
    last.shapes.contains resource = true := by
  have held {start between : Run} {made : Node} {compute : Action Node}
      (computed : after (shapeOf resource compute) start = (.ok made, between)) :
      between.shapes.contains resource = true := by
    rw [ShapeCache.contains, find?_of_after_shapeOf computed]
    rfl
  cases first? with
  | none =>
      obtain ⟨made, between, computed, gives⟩ := Action.after_bind_ok ran
      cases gives
      obtain ⟨entity, _, _, computed⟩ := Action.after_bind_ok computed
      exact held computed
  | some first =>
      obtain ⟨made, between, computed, gives⟩ := Action.after_bind_ok ran
      cases gives
      exact held computed

theorem documents_collectionShape {collection : ClassName}
    (converts : Documented app fails convert collection) :
    Documents app fails (ReflTransGen (Nests app) collection) 0
      (collectionShape app convert collection) := by
  unfold collectionShape
  cases isCollection : app.isCollection collection with
  | false => exact documents_throw others nofun
  | true =>
      cases collects : app.collected? collection with
      | none => exact documents_throw others nofun
      | some resource =>
          refine documents_bind_lift others (ends_entityOf app resource) fun entity shows => ?_
          refine .shape .refl (fun _ nests => nests.to_reflTransGen) (Nat.le_refl 1) ?_
            fun regular => ⟨regular.acyclic collection, ?_⟩
          · show Documents app fails _ (1 + 0) (sample app entity 2 >>= _)
            refine .bind (documents_sample others entity 2) fun samples _ _ made => ?_
            refine documents_bind_lift others (app.ends_itemsOf collection samples)
              fun items renders => ?_
            have lists : listedBy app collection resource = .ok items := by
              rw [listedBy_of_entity shows, samplesOf_of_after made]
              exact renders
            refine documents_bind_lift others (ends_firstItem items) fun first? found => ?_
            exact documents_item others converts isCollection collects shows lists found
          · intro other _ same run node last computed
            cases collects.symm.trans same
            obtain ⟨samples, _, _, computed⟩ := Action.after_bind_ok computed
            obtain ⟨items, _, _, computed⟩ := Action.after_bind_ok computed
            obtain ⟨first?, _, _, computed⟩ := Action.after_bind_ok computed
            exact contains_of_after_item computed

/-- Where classes are nested too deeply the conversion fails, unless it does not get there. -/
theorem documents_convert (depth : Nat) (type : ClassName)
    (ends : fails .exhaustion ∨ EndsWithin (Nests app) depth type) (name : Option String) :
    Documents app fails (ReflTransGen (Nests app) type) 0
      (Response.convert app depth name type) := by
  induction depth generalizing type name with
  | zero =>
      rcases ends with allowed | never
      · exact .fail allowed
      · exact never.elim
  | succ depth induction =>
      have below : Documented app fails (Response.convert app depth) type := fun inner nests =>
        induction inner (ends.imp_right fun ends => ends.below nests)
      rw [Response.convert]
      cases app.isCollection type with
      | true =>
          exact .bind (documents_collectionShape others below) fun _ _ _ _ =>
            documents_pure others _
      | false =>
          exact .bind (documents_resourceShape others below) fun _ _ _ _ => documents_pure others _

end

/-! What is asked for from outside. -/

/-- What a raw response answers, where nothing counts how often samples are made. -/
def replyOf (app : App) (type : ClassName) : Outcome Reply := do
  let sample ← match app.annotatedEntity? type with
    | none => pure none
    | some entity => do pure (some (← firstOf app entity))
  app.rawReply type sample

/-- The classes whose schemas an answer is made of in the first place. -/
inductive Opens (app : App) : ClassName → ClassName → Prop
  | itself {type : ClassName}
      (documented : app.isCollection type = true ∨ app.isResource type = true) : Opens app type type
  | inside {type inner : ClassName} {reply : Reply}
      (raw : ¬ (app.isCollection type = true ∨ app.isResource type = true))
      (replies : replyOf app type = .ok reply) (inside : reply.data.Contains inner) :
      Opens app type inner

def Call.Opens (app : App) : Call → ClassName → Prop
  | resolve (.type type) _ _, inner => Response.Opens app type inner
  | resolve _ _ _, _ => False
  | resource type, inner => inner = type
  | collection type, inner => inner = type

/-- The samples that a class needs that is answered with as it is. -/
def rawSamples (app : App) (type : ClassName) : Nat :=
  if app.isCollection type || app.isResource type then 0
  else if app.isA type Contract.responseName && (app.annotatedEntity? type).isSome then 1
  else 0

def Call.rawSamples (app : App) : Call → Nat
  | resolve (.type type) _ _ => Response.rawSamples app type
  | _ => 0

section

variable {app : App} {fails : Failure → Prop}
  (others : ∀ failure, failure ≠ .exhaustion → fails failure)
include others

/-- What a class is made of is found without nesting classes too deeply, or that may happen. -/
def Bounded (app : App) (fails : Failure → Prop) (type : ClassName) : Prop :=
  fails .exhaustion ∨ EndsWithin (Nests app) (app.classes.length + 1) type

omit others in
theorem Bounded.nested {type : ClassName} (bounded : Bounded app fails type) :
    fails .exhaustion ∨ EndsWithin (Nests app) (app.classes.length + 2) type :=
  bounded.imp_right EndsWithin.succ

theorem documented_nested {type : ClassName} (bounded : Bounded app fails type) :
    Documented app fails (nested app) type := fun inner nests =>
  documents_convert others _ inner (bounded.nested.imp_right fun ends => ends.below nests)

theorem documents_bodyOf {data : Value}
    (bounded : ∀ inner, data.Contains inner → Bounded app fails inner) :
    Documents app fails (fun _ => True) 0 (bodyOf app data) := by
  unfold bodyOf
  split
  · exact documents_pure others none
  · refine .bind ?_ fun _ _ _ _ => documents_pure others _
    refine documents_inferWith others none data fun inner inside name => ?_
    exact (documents_convert others _ inner (bounded inner inside) name).mono fun _ _ => trivial

/-- The samples of a raw response are made outside of all schemas. -/
theorem documents_resolveRaw {type : ClassName}
    (raw : ¬ (app.isCollection type = true ∨ app.isResource type = true))
    (bounded : ∀ inner, Opens app type inner → Bounded app fails inner) :
    Documents app fails (fun _ => True) (if (app.annotatedEntity? type).isSome then 1 else 0)
      (resolveRaw app type) := by
  have reply (sample : Option Entity) (replies : replyOf app type = app.rawReply type sample) :
      Documents app fails (fun _ => True) 0 (do
        let reply ← Action.lift (app.rawReply type sample)
        let body ← bodyOf app reply.data
        Action.lift (make app .rawResponse type reply.status body)) := by
    refine documents_bind_lift others (app.ends_rawReply type sample) fun reply gives => ?_
    refine .bind (documents_bodyOf others fun inner inside => ?_) fun body _ _ _ =>
      documents_ends others (ends_make app .rawResponse type reply.status body)
    exact bounded inner (.inside raw (replies.trans gives) inside)
  unfold resolveRaw
  cases annotated : app.annotatedEntity? type with
  | none =>
      refine reply none ?_
      rw [replyOf, annotated]
      rfl
  | some entity =>
      show Documents app fails _ (1 + 0) (firstSample app entity >>= _)
      refine .bind (documents_firstSample others entity) fun sample _ _ made => reply (some sample) ?_
      rw [replyOf, annotated]
      dsimp only
      rw [firstOf_of_after made]
      rfl

theorem documents_resolveClass {type : ClassName} {route : Option String}
    (bounded : ∀ inner, Opens app type inner → Bounded app fails inner) :
    Documents app fails (fun _ => True) (rawSamples app type) (resolveClass app type route) := by
  unfold resolveClass rawSamples
  cases isCollection : app.isCollection type with
  | true =>
      have itself := documented_nested others (bounded type (.itself (.inl isCollection)))
      exact .bind ((documents_collectionShape others itself).mono fun _ _ => trivial)
        fun _ _ _ _ => documents_ends others (ends_make app _ _ _ _)
  | false =>
      cases isResource : app.isResource type with
      | true =>
          have itself := documented_nested others (bounded type (.itself (.inr isResource)))
          exact .bind ((documents_resourceShape others itself).mono fun _ _ => trivial)
            fun _ _ _ _ => documents_ends others (ends_make app _ _ _ _)
      | false =>
          cases isRaw : app.isA type Contract.responseName with
          | true =>
              exact documents_resolveRaw others (by rw [isCollection, isResource]; simp) bounded
          | false =>
              cases app.isA type Contract.redirectName with
              | true =>
                  show Documents app fails _ 0 (Action.lift (make app .redirect type (.int 302) none))
                  exact documents_ends others (ends_make app _ _ _ _)
              | false => exact documents_throw others nofun

theorem documents_resolve {type : Hint} {hasBody : Bool} {route : Option String}
    (bounded : ∀ inner, (Call.resolve type hasBody route).Opens app inner →
      Bounded app fails inner) :
    Documents app fails (fun _ => True) ((Call.resolve type hasBody route).rawSamples app)
      (resolve app type hasBody route) := by
  cases type with
  | type name =>
      exact .bind (documents_resolveClass others bounded) fun _ _ _ _ => documents_pure others _
  | _ => exact documents_throw others nofun

theorem documents_resolveError {type : ClassName} {route : Option String}
    (bounded : ∀ inner, Bounded app fails inner) :
    Documents app fails (fun _ => True) 0 (resolveError app type route) := by
  refine documents_bind_lift others (ends_makeError app type route) fun error _ => ?_
  exact .bind (documents_bodyOf others fun inner _ => bounded inner) fun body _ _ _ =>
    documents_ends others (ends_make app .declaredError type _ body)

theorem documents_perform {call : Call}
    (bounded : ∀ inner, call.Opens app inner → Bounded app fails inner) :
    Documents app fails (fun _ => True) (call.rawSamples app) (call.perform app) := by
  cases call with
  | resolve type hasBody route =>
      exact .bind (documents_resolve others bounded) fun _ _ _ _ => documents_pure others _
  | resource type =>
      refine .bind ?_ fun _ _ _ _ => documents_pure others _
      exact (documents_resourceShape others (documented_nested others (bounded type rfl))).mono
        fun _ _ => trivial
  | collection type =>
      refine .bind ?_ fun _ _ _ _ => documents_pure others _
      exact (documents_collectionShape others (documented_nested others (bounded type rfl))).mono
        fun _ _ => trivial

theorem documents_calls {calls : List Call}
    (bounded : ∀ call ∈ calls, ∀ inner, call.Opens app inner → Bounded app fails inner) :
    Documents app fails (fun _ => True) (calls.map (Call.rawSamples app)).sum
      (calls.mapM (Call.perform app)) := by
  induction calls with
  | nil => exact documents_pure others []
  | cons call rest induction =>
      rw [List.mapM_cons, List.map_cons, List.sum_cons]
      refine .bind (documents_perform others (bounded call List.mem_cons_self)) fun _ _ _ _ => ?_
      refine .bind (induction fun later member => bounded later (List.mem_cons_of_mem _ member))
        fun _ _ _ _ => documents_pure others _

end

/-! Whatever may happen on the way. -/

section

variable {app : App}

theorem anyhow_resolve (type : Hint) (hasBody : Bool) (route : Option String) :
    Documents app (fun _ => True) (fun _ => True) ((Call.resolve type hasBody route).rawSamples app)
      (resolve app type hasBody route) :=
  documents_resolve (fun _ _ => trivial) fun _ _ => .inl trivial

theorem anyhow_resolveError (type : ClassName) (route : Option String) :
    Documents app (fun _ => True) (fun _ => True) 0 (resolveError app type route) :=
  documents_resolveError (fun _ _ => trivial) fun _ => .inl trivial

end

end RouteDocs.Response
