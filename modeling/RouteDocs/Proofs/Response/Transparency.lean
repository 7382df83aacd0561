import Mathlib.Tactic.Choose
import RouteDocs.Proofs.Response.Remembering
import RouteDocs.Proofs.Response.Sampling

/-!
Remembered schemas are no different from computed ones. A schema may be remembered from a
resource that was asked for, from the items of a collection and from a resource inside
another; all of them are the schema of the same first sample.
-/

namespace RouteDocs.Response

open Schema (Node)
open RouteDocs.Action (after)

variable {app : App} {depth : Nat}

/-- Conversions to this depth give what they give where nothing is remembered, or what those give
that are deep enough. -/
def Converts (app : App) (depth : Nat) : Prop :=
  ∀ name type, Lies app (convert app depth name type) (convertAlone app depth name type)
    (nestedAlone app name type)

theorem shape_of_isResource (uniform : Uniform app) {resource entity : ClassName}
    (shows : entityOf app resource = .ok entity) :
    shape app resource = resourceAlone app (nestedAlone app) resource := by
  rw [shape, shapeAlone,
    uniform.keepsContract.isCollection_eq_false (isResource_of_entityOf shows)]
  rfl

theorem lies_resourceShape (uniform : Uniform app) (converts : Converts app depth)
    (resource : ClassName) :
    Lies app (resourceShape app (convert app depth) resource)
      (resourceAlone app (convertAlone app depth) resource)
      (resourceAlone app (nestedAlone app) resource) := by
  unfold resourceShape
  cases shows : entityOf app resource with
  | error failure =>
      unfold resourceAlone shownBy
      rw [shows]
      exact (gives_throw failure).lies
  | ok entity =>
      have same := shape_of_isResource uniform shows
      show Lies app (shapeOf resource _) _ _
      rw [← same]
      apply lies_shapeOf
      rw [same, resourceAlone, resourceAlone, shownBy_of_entity shows, bind_assoc, bind_assoc]
      refine (gives_firstSample entity).lies.bind fun sample _ => ?_
      exact (gives_lift _).lies.bind fun content _ => lies_infer none content converts

/-- The items of a collection are remembered as the schema of their resource. -/
theorem lies_item (uniform : Uniform app) (converts : Converts app depth)
    {collection resource : ClassName} {items : Value} {first? : Option Value}
    (isCollection : app.isCollection collection = true)
    (collects : app.collected? collection = some resource)
    (lists : listedBy app collection resource = .ok items) (found : firstItem items = .ok first?) :
    Lies app
      (match first? with
        | none => resourceShape app (convert app depth) resource
        | some first => shapeOf resource (Node.inferWith (convert app depth) none first))
      (itemAlone app (convertAlone app depth) resource first?)
      (itemAlone app (nestedAlone app) resource first?) := by
  cases first? with
  | none => exact lies_resourceShape uniform converts resource
  | some first =>
      have shown := shownBy_of_listedBy (uniform.inherits collection isCollection) collects lists found
      obtain ⟨entity, shows⟩ := entityOf_of_shownBy shown
      have same : shape app resource = Node.inferWith (nestedAlone app) none first := by
        rw [shape_of_isResource uniform shows, resourceAlone, shown]
        rfl
      rw [itemAlone, itemAlone, ← same]
      apply lies_shapeOf
      rw [same]
      exact lies_infer none first converts

/-- What a collection computes when its schema is not there yet. -/
theorem lies_items (uniform : Uniform app) (converts : Converts app depth)
    {collection resource entity : ClassName} (isCollection : app.isCollection collection = true)
    (collects : app.collected? collection = some resource)
    (shows : entityOf app resource = .ok entity) :
    Lies app
      (do
        let samples ← sample app entity 2
        let items ← Action.lift (app.itemsOf collection samples)
        match ← Action.lift (firstItem items) with
        | none =>
            pure (Node.ofArray none (← resourceShape app (convert app depth) resource))
        | some first => do
            let items ← shapeOf resource (Node.inferWith (convert app depth) none first)
            pure (Node.ofArray none items))
      (collectionAlone app (convertAlone app depth) collection)
      (collectionAlone app (nestedAlone app) collection) := by
  rw [collectionAlone_of_collects isCollection collects,
    collectionAlone_of_collects isCollection collects, listedBy_of_entity shows, bind_assoc,
    bind_assoc]
  refine (gives_sample entity 2).lies.bind fun samples made => ?_
  refine (gives_lift _).lies.bind fun items renders => ?_
  refine (gives_lift _).lies.bind fun first? found => ?_
  have lists : listedBy app collection resource = .ok items := by
    rw [listedBy_of_entity shows, made]
    exact renders
  have item := lies_item uniform converts isCollection collects lists found
  have array := item.bind fun node _ => (gives_pure (Node.ofArray none node)).lies
  cases first? with
  | none => exact array
  | some first => exact array

theorem lies_collectionShape (uniform : Uniform app) (converts : Converts app depth)
    (collection : ClassName) :
    Lies app (collectionShape app (convert app depth) collection)
      (collectionAlone app (convertAlone app depth) collection)
      (collectionAlone app (nestedAlone app) collection) := by
  unfold collectionShape
  cases isCollection : app.isCollection collection with
  | false =>
      unfold collectionAlone
      rw [isCollection]
      exact (gives_throw _).lies
  | true =>
      cases collects : app.collected? collection with
      | none =>
          unfold collectionAlone
          rw [isCollection, collects]
          exact (gives_throw _).lies
      | some resource =>
          dsimp only
          cases shows : entityOf app resource with
          | error failure =>
              rw [collectionAlone_of_collects isCollection collects,
                collectionAlone_of_collects isCollection collects, listedBy, shows]
              exact (gives_throw failure).lies
          | ok entity =>
              have same : shape app collection = collectionAlone app (nestedAlone app) collection := by
                rw [shape, shapeAlone, isCollection]
                rfl
              show Lies app (shapeOf collection _) _ _
              rw [← same]
              apply lies_shapeOf
              rw [same]
              exact lies_items uniform converts isCollection collects shows

theorem converts (uniform : Uniform app) (depth : Nat) : Converts app depth := by
  induction depth with
  | zero => exact fun name type run sound => ⟨.refl _, .inl rfl, sound⟩
  | succ depth induction =>
      intro name type
      rw [← convertAlone_eq (Nat.le_succ _), convert, convertAlone, convertAlone, shapeAlone,
        shapeAlone]
      cases app.isCollection type with
      | true =>
          exact (lies_collectionShape uniform induction type).bind fun _ _ => (gives_pure _).lies
      | false =>
          exact (lies_resourceShape uniform induction type).bind fun _ _ => (gives_pure _).lies

/-! Conversions that are deep enough. -/

section

variable (uniform : Uniform app)
include uniform

theorem gives_resourceShape (resource : ClassName) :
    Gives app (resourceShape app (nested app) resource)
      (resourceAlone app (nestedAlone app) resource) :=
  (lies_resourceShape uniform (converts uniform _) resource).gives

theorem gives_collectionShape (collection : ClassName) :
    Gives app (collectionShape app (nested app) collection)
      (collectionAlone app (nestedAlone app) collection) :=
  (lies_collectionShape uniform (converts uniform _) collection).gives

theorem gives_nested (data : Value) :
    Gives app (Node.inferWith (nested app) none data)
      (Node.inferWith (nestedAlone app) none data) :=
  (lies_infer none data (converts uniform _)).gives

end

theorem gives_infer (regular : Regular app) (data : Value) :
    Gives app (Node.inferWith (nested app) none data)
      (Node.inferWith (nestedAlone app) none data) :=
  gives_nested regular.uniform data

/-! What a resolver is asked for. -/

inductive Call where
  | resolve (type : Hint) (hasBody : Bool) (route : Option String)
  | resource (type : ClassName)
  | collection (type : ClassName)

/-- A resolver answers with a response or with a schema. -/
def Call.perform (app : App) : Call → Action (ResolvedResponse ⊕ Node)
  | resolve type hasBody route => do pure (.inl (← Response.resolve app type hasBody route))
  | resource type => do pure (.inr (← resourceShape app (nested app) type))
  | collection type => do pure (.inr (← collectionShape app (nested app) type))

/-- The answers to one call after the other. A call that fails is answered with its
failure. -/
def answers (app : App) : List Call → Run → List (Outcome (ResolvedResponse ⊕ Node))
  | [], _ => []
  | call :: rest, run =>
      (after (call.perform app) run).1 :: answers app rest (after (call.perform app) run).2

/-- The step gives the same from every sound run on. -/
def Settled (app : App) {α : Type} (step : Action α) : Prop := ∃ outcome, Gives app step outcome

section

variable {α β : Type}

theorem Settled.bind {step : Action α} {next : α → Action β} (settled : Settled app step)
    (follows : ∀ a, Settled app (next a)) : Settled app (step >>= next) := by
  obtain ⟨outcome, gives⟩ := settled
  choose other follow using follows
  exact ⟨outcome >>= other, gives.bind fun a _ => follow a⟩

theorem settled_pure (a : α) : Settled app (pure a) := ⟨_, gives_pure a⟩

theorem settled_throw (failure : Failure) : Settled app (throw failure : Action α) :=
  ⟨_, gives_throw failure⟩

theorem settled_lift (outcome : Outcome α) : Settled app (Action.lift outcome) :=
  ⟨_, gives_lift outcome⟩

end

section

variable (uniform : Uniform app)
include uniform

theorem settled_resourceShape (type : ClassName) :
    Settled app (resourceShape app (nested app) type) :=
  ⟨_, gives_resourceShape uniform type⟩

theorem settled_collectionShape (type : ClassName) :
    Settled app (collectionShape app (nested app) type) :=
  ⟨_, gives_collectionShape uniform type⟩

theorem settled_bodyOf (data : Value) : Settled app (bodyOf app data) := by
  unfold bodyOf
  split
  · exact settled_pure none
  · exact Settled.bind ⟨_, gives_nested uniform data⟩ fun _ => settled_pure _

theorem settled_resolveRaw (type : ClassName) : Settled app (resolveRaw app type) := by
  have reply (sample : Option Entity) : Settled app (do
      let reply ← Action.lift (app.rawReply type sample)
      let body ← bodyOf app reply.data
      Action.lift (make app .rawResponse type reply.status body)) := by
    refine (settled_lift _).bind fun reply => ?_
    exact (settled_bodyOf uniform reply.data).bind fun body => settled_lift _
  unfold resolveRaw
  cases app.annotatedEntity? type with
  | none => exact reply none
  | some entity => exact Settled.bind ⟨_, gives_firstSample entity⟩ fun sample => reply sample

theorem settled_resolveClass (type : ClassName) (route : Option String) :
    Settled app (resolveClass app type route) := by
  unfold resolveClass
  split
  · exact (settled_collectionShape uniform type).bind fun _ => settled_lift _
  · split
    · exact (settled_resourceShape uniform type).bind fun _ => settled_lift _
    · split
      · exact settled_resolveRaw uniform type
      · split
        · exact settled_lift _
        · exact settled_throw _

theorem settled_perform (call : Call) : Settled app (call.perform app) := by
  cases call with
  | resolve type hasBody route =>
      refine Settled.bind ?_ fun _ => settled_pure _
      unfold resolve
      split
      · exact (settled_resolveClass uniform _ route).bind fun _ => settled_pure _
      · exact settled_throw _
  | resource type => exact (settled_resourceShape uniform type).bind fun _ => settled_pure _
  | collection type => exact (settled_collectionShape uniform type).bind fun _ => settled_pure _

end

section

variable (regular : Regular app)
include regular

theorem answers_eq_of_sound (calls : List Call) {run : Run} (sound : Sound app run) :
    answers app calls run = calls.map fun call => (after (call.perform app) {}).1 := by
  induction calls generalizing run with
  | nil => rfl
  | cons call rest induction =>
      obtain ⟨outcome, gives⟩ := settled_perform regular.uniform call
      have fresh := (gives {} (sound_of_empty rfl)).1
      have here := gives run sound
      rw [answers, List.map_cons, induction here.2, here.1, fresh]

/-- However often a resolver was called before, it answers like a new one. -/
theorem answers_eq_fresh (calls : List Call) {run : Run} (empty : run.shapes.entries = []) :
    answers app calls run = calls.map fun call => (after (call.perform app) {}).1 :=
  answers_eq_of_sound regular calls (sound_of_empty empty)

end

/-! Books that name their authors, one by one and as a list. -/

def bookList : ClassName := ⟨"shop", "BookList"⟩
def bookView : ClassName := ⟨"shop", "BookView"⟩
def authorView : ClassName := ⟨"shop", "AuthorView"⟩
def book : ClassName := ⟨"shop", "Book"⟩
def author : ClassName := ⟨"shop", "Author"⟩

def library : App where
  ownClasses :=
    [{ name := bookList, parent := some Contract.collectionName
       collects := some (some bookView) },
     { name := bookView, parent := some Contract.resourceName, model := some (some book)
       content := some (.map [(.text "author", .rendering authorView)]) },
     { name := authorView, parent := some Contract.resourceName, model := some (some author) },
     { name := book, factory := some {} },
     { name := author, factory := some { fields := [("name", .numbered "Author #")] } }]

def rank (type : ClassName) : Nat :=
  if type = bookList then 2 else if type = bookView then 1 else 0

theorem names_library {type : ClassName} (own : type ∈ library.ownClasses.map Class.name) :
    type = bookList ∨ type = bookView ∨ type = authorView ∨ type = book ∨ type = author := by
  simpa [library] using own

theorem content_of_library {type : ClassName} {content : Value}
    (shows : shownBy library type = .ok content) :
    (type = bookView ∧ content = .map [(.text "author", .rendering authorView)]) ∨
      (type = authorView ∧ content = .map [(.text "name", .text "Author 1")]) := by
  obtain ⟨entity, found⟩ := entityOf_of_shownBy shows
  rcases App.own_of_isResource (isResource_of_entityOf found) with own | contract
  · rcases names_library own with rfl | rfl | rfl | rfl | rfl
    · cases shows
    · cases shows
      exact .inl ⟨rfl, rfl⟩
    · cases shows
      exact .inr ⟨rfl, rfl⟩
    · cases shows
    · cases shows
  · subst contract
    cases shows

theorem isCollection_of_library {type : ClassName}
    (isCollection : library.isCollection type = true) :
    type = bookList ∨ type = Contract.collectionName := by
  rcases App.own_of_isCollection isCollection with own | contract
  · rcases names_library own with rfl | rfl | rfl | rfl | rfl
    · exact .inl rfl
    · cases isCollection
    · cases isCollection
    · cases isCollection
    · cases isCollection
  · exact .inr contract

theorem collects_of_library {type resource : ClassName}
    (isCollection : library.isCollection type = true)
    (collects : library.collected? type = some resource) : type = bookList ∧ resource = bookView := by
  rcases isCollection_of_library isCollection with rfl | rfl
  · cases collects
    exact ⟨rfl, rfl⟩
  · cases collects

theorem eq_of_contains_author {type : ClassName}
    (inside : (Value.map [(.text "author", .rendering authorView)]).Contains type) :
    type = authorView := by
  cases inside with
  | map member inside =>
      cases List.mem_singleton.mp member
      cases inside
      rfl

theorem rank_library {outer inner : ClassName} (nests : Nests library outer inner) :
    rank inner < rank outer := by
  cases nests with
  | shown shows inside =>
      rcases content_of_library shows with ⟨rfl, rfl⟩ | ⟨rfl, rfl⟩
      · rw [eq_of_contains_author inside]
        decide
      · cases inside with
        | map member inside =>
            cases List.mem_singleton.mp member
            cases inside
  | @listed _ _ items isCollection collects lists inside =>
      obtain ⟨rfl, rfl⟩ := collects_of_library isCollection collects
      have both : items = .list [.map [(.text "author", .rendering authorView)],
          .map [(.text "author", .rendering authorView)]] := by
        cases lists
        rfl
      subst both
      cases inside with
      | list member inside =>
          have same : inner = authorView := by
            rcases List.mem_pair.mp member with first | second
            · exact eq_of_contains_author (first ▸ inside)
            · exact eq_of_contains_author (second ▸ inside)
          rw [same]
          decide
  | collected isCollection collects =>
      obtain ⟨rfl, rfl⟩ := collects_of_library isCollection collects
      decide

theorem regular_library : Regular library where
  keepsContract := by unfold App.KeepsContract; decide
  inherits type isCollection := by
    rcases isCollection_of_library isCollection with rfl | rfl <;> rfl
  acyclic := acyclic_of_falls rank_library

def session : List Call :=
  [.collection bookList, .resource authorView, .resolve (.type bookView) true none,
   .resource bookList]

theorem answers_session : Regular library ∧
    (answers library session {}).map Except.isOk = [true, true, true, false] ∧
      answers library session {} = session.map fun call => (after (call.perform library) {}).1 :=
  ⟨regular_library, by decide +kernel, answers_eq_fresh regular_library session rfl⟩

end RouteDocs.Response
