import RouteDocs.Proofs.Response.Transparency

/-!
The documented body of a resource or a collection is the schema of its answer. The answer is put
into its envelope before it is looked at, the documentation puts a schema into one that may be
remembered.
-/

namespace RouteDocs

theorem Reply.data_make (data status : Value) : (Reply.make data status).data = data := by
  unfold Reply.make
  split <;> rfl

theorem Reply.status_make {data status : Value} (given : status ≠ .null) :
    (Reply.make data status).status = status := by
  unfold Reply.make
  split
  · exact absurd rfl given
  · rfl

namespace Response

open Schema (Node)
open RouteDocs.Action (after)

/-! Resolvers that were asked before. -/

/-- A run in which a resolver was called any number of times. What else happens in between leaves
the schemas alone. -/
inductive Reached (app : App) : Run → Prop
  | fresh {run : Run} (empty : run.shapes.entries = []) : Reached app run
  | call {run : Run} (reached : Reached app run) (call : Call) :
      Reached app (after (call.perform app) run).2
  | error {run : Run} (reached : Reached app run) (type : ClassName) (route : Option String) :
      Reached app (after (resolveError app type route) run).2
  | other {run later : Run} (reached : Reached app run) (same : later.shapes = run.shapes) :
      Reached app later

variable {app : App}

theorem settled_resolveError (uniform : Uniform app) (type : ClassName) (route : Option String) :
    Settled app (resolveError app type route) := by
  refine (settled_lift _).bind fun error => ?_
  exact (settled_bodyOf uniform (app.errorReply error).data).bind fun body => settled_lift _

theorem Reached.sound_of_uniform (uniform : Uniform app) {run : Run} (reached : Reached app run) :
    Sound app run := by
  induction reached with
  | fresh empty => exact sound_of_empty empty
  | call _ call sound =>
      obtain ⟨outcome, gives⟩ := settled_perform uniform call
      exact (gives _ sound).2
  | error _ type route sound =>
      obtain ⟨outcome, gives⟩ := settled_resolveError uniform type route
      exact (gives _ sound).2
  | other _ same sound =>
      intro type node found
      rw [same] at found
      exact sound type node found

theorem Reached.sound (regular : Regular app) {run : Run} (reached : Reached app run) :
    Sound app run :=
  reached.sound_of_uniform regular.uniform

/-! Answers. -/

/-- What a class answers with, given the samples that it is documented from. -/
def answer (app : App) (type : ClassName) : Outcome Reply :=
  if app.isCollection type then
    match app.collected? type with
    | none => throw (.untypedResource type (some (needsResource type)))
    | some resource => do
        let entity ← entityOf app resource
        let samples ← samplesOf app entity 2
        app.collectionReply type samples
  else do
    let entity ← entityOf app type
    let sample ← firstOf app entity
    app.resourceReply type sample

/-- What a class shows before it is put into an envelope. -/
def dataOf (app : App) (type : ClassName) : Outcome Value :=
  if app.isCollection type then
    match app.collected? type with
    | none => throw (.untypedResource type (some (needsResource type)))
    | some resource => listedBy app type resource
  else shownBy app type

theorem answer_eq (type : ClassName) :
    answer app type = app.envelope type <$> dataOf app type := by
  unfold answer dataOf
  split
  · split
    · rfl
    · simp only [listedBy, App.collectionReply, map_bind, bind_pure_comp]
  · simp only [shownBy, App.resourceReply, map_bind, bind_pure_comp]

theorem convertAlone_name (depth : Nat) (name : Option String) (type : ClassName) :
    convertAlone app depth name type =
      (convertAlone app depth none type).map (Node.rename name) := by
  cases depth with
  | zero => rfl
  | succ depth =>
      rw [convertAlone, convertAlone]
      cases shapeAlone app (convertAlone app depth) type <;> rfl

/-! What is documented is inferred from the data. -/

/-- A collection lists something. -/
def Filled (app : App) (type : ClassName) : Prop :=
  app.isCollection type = true → ∀ items, dataOf app type = .ok items → firstItem items ≠ .ok none

theorem shape_of_filled (regular : Regular app) {type : ClassName} (filled : Filled app type) :
    shape app type = dataOf app type >>= Node.inferWith (nestedAlone app) none := by
  unfold shape shapeAlone
  cases isCollection : app.isCollection type with
  | false =>
      unfold dataOf
      rw [isCollection]
      rfl
  | true =>
      cases collects : app.collected? type with
      | none =>
          unfold collectionAlone dataOf
          rw [isCollection, collects]
          rfl
      | some resource =>
          have lists : dataOf app type = listedBy app type resource := by
            unfold dataOf
            rw [isCollection, collects]
            rfl
          rw [if_pos rfl, collectionAlone_of_collects isCollection collects, lists]
          apply Outcome.bind_congr
          intro items listed
          obtain ⟨entity, shows, rendered⟩ := Outcome.ok_of_bind listed
          obtain ⟨samples, made, rendered⟩ := Outcome.ok_of_bind rendered
          obtain ⟨contents, _, rfl⟩ :=
            items_of_itemsOf (regular.inherits type isCollection) collects rendered
          cases contents with
          | nil => exact absurd rfl (filled isCollection _ (lists.trans listed))
          | cons first rest => rfl

theorem toOption_infer_envelope (type : ClassName) (data : Value) :
    (Node.inferWith (nestedAlone app) none (app.envelope type data).data).toOption =
      (Node.inferWith (nestedAlone app) none data).toOption.map fun node =>
        envelop node (app.wrapOf type) := by
  unfold App.envelope envelop
  rw [Reply.data_make]
  cases app.wrapOf type |>.isTruthy with
  | false => exact Option.map_id'.symm
  | true => exact Node.toOption_inferWith_under (convertAlone_name _) (app.wrapOf type) data

/-! Resolving. -/

def kindOf (app : App) (type : ClassName) : ResponseKind :=
  if app.isCollection type then .resourceCollection else .singleResource

theorem gives_resolveClass (uniform : Uniform app) {type : ClassName}
    (shown : app.isResource type = true ∨ app.isCollection type = true) (route : Option String) :
    Gives app (resolveClass app type route)
      (shape app type >>= fun node =>
        make app (kindOf app type) type (app.statusOf type)
          (some (envelop node (app.wrapOf type)))) := by
  unfold resolveClass shape shapeAlone kindOf
  cases isCollection : app.isCollection type with
  | true => exact (gives_collectionShape uniform type).bind fun _ _ => gives_lift _
  | false =>
      have isResource : app.isResource type = true := by simpa [isCollection] using shown
      rw [isResource]
      exact (gives_resourceShape uniform type).bind fun _ _ => gives_lift _

theorem gives_resolve (regular : Regular app) {type : ClassName}
    (shown : app.isResource type = true ∨ app.isCollection type = true) (route : Option String) :
    Gives app (resolve app (.type type) true route)
      (shape app type >>= fun node =>
        make app (kindOf app type) type (app.statusOf type)
          (some (envelop node (app.wrapOf type)))) := by
  show Gives app (resolveClass app type route >>= pure) _
  rw [bind_pure]
  exact gives_resolveClass regular.uniform shown route

theorem make_of_whole {kind : ResponseKind} {type : ClassName} {status : Value} {number : Int}
    (whole : status.toWhole = .ok number) (body : Option Node) :
    (make app kind type status body).toOption.map (fun response => (response.status, response.body)) =
      some (number, body) := by
  unfold make
  rw [whole]
  rfl

/-- A class is documented with the status that it answers with and the schema of the data that it
answers with, however its data are wrapped and whatever was asked for before. Where its samples
cannot be shown, there is no documentation. -/
theorem resolve_answer (regular : Regular app) {type : ClassName}
    (shown : app.isResource type = true ∨ app.isCollection type = true) {status : Int}
    (whole : (app.statusOf type).toWhole = .ok status) (filled : Filled app type)
    {run other : Run} (reached : Reached app run) (reachedToo : Reached app other)
    (route : Option String) :
    (∀ failure, answer app type = .error failure →
        (after (resolve app (.type type) true route) run).1 = .error failure) ∧
      ∀ reply, answer app type = .ok reply →
        reply.status.toWhole = .ok status ∧
          (after (resolve app (.type type) true route) run).1.toOption.map
              (fun response => (response.status, response.body)) =
            (after (Node.inferWith (nested app) none reply.data) other).1.toOption.map
              fun node => (status, some node) := by
  rw [(gives_resolve regular shown route run (reached.sound regular)).1,
    shape_of_filled regular filled, answer_eq]
  cases shows : dataOf app type with
  | error failure =>
      refine ⟨?_, nofun⟩
      rintro _ ⟨⟩
      rfl
  | ok data =>
      refine ⟨nofun, ?_⟩
      rintro _ ⟨⟩
      have given : app.statusOf type ≠ .null := by
        intro null
        rw [null] at whole
        cases whole
      refine ⟨?_, ?_⟩
      · unfold App.envelope
        rw [Reply.status_make given]
        exact whole
      · rw [(gives_infer regular _ other (reachedToo.sound regular)).1, toOption_infer_envelope]
        show Option.map _ (Except.toOption (Node.inferWith (nestedAlone app) none data >>= _)) = _
        cases Node.inferWith (nestedAlone app) none data with
        | error failure => rfl
        | ok node => exact make_of_whole whole _

/-! A list of authors under a key of its own. -/

def authorList : ClassName := ⟨"shop", "AuthorList"⟩

def shelf : App where
  ownClasses :=
    [{ name := authorList, parent := some Contract.collectionName
       attributes := [("wrap", .text "authors"), ("status_code", .int 206)]
       collects := some (some authorView) },
     { name := authorView, parent := some Contract.resourceName, model := some (some author) },
     { name := author, factory := some { fields := [("name", .numbered "Author #")] } }]

def named (name : String) : Value := .map [(.text "name", .text name)]

theorem names_shelf {type : ClassName} (own : type ∈ shelf.ownClasses.map Class.name) :
    type = authorList ∨ type = authorView ∨ type = author := by
  simpa [shelf] using own

theorem content_of_shelf {type : ClassName} {content : Value}
    (shows : shownBy shelf type = .ok content) : content = named "Author 1" := by
  obtain ⟨entity, found⟩ := entityOf_of_shownBy shows
  rcases App.own_of_isResource (isResource_of_entityOf found) with own | contract
  · rcases names_shelf own with rfl | rfl | rfl
    · cases shows
    · cases shows
      rfl
    · cases shows
  · subst contract
    cases shows

theorem isCollection_of_shelf {type : ClassName} (isCollection : shelf.isCollection type = true) :
    type = authorList ∨ type = Contract.collectionName := by
  rcases App.own_of_isCollection isCollection with own | contract
  · rcases names_shelf own with rfl | rfl | rfl
    · exact .inl rfl
    · cases isCollection
    · cases isCollection
  · exact .inr contract

theorem collects_of_shelf {type resource : ClassName}
    (isCollection : shelf.isCollection type = true)
    (collects : shelf.collected? type = some resource) :
    type = authorList ∧ resource = authorView := by
  rcases isCollection_of_shelf isCollection with rfl | rfl
  · cases collects
    exact ⟨rfl, rfl⟩
  · cases collects

theorem not_contains_named {name : String} {type : ClassName} : ¬ (named name).Contains type := by
  intro inside
  cases inside with
  | map member inside =>
      cases List.mem_singleton.mp member
      cases inside

theorem nests_shelf {outer inner : ClassName} (nests : Nests shelf outer inner) :
    outer = authorList ∧ inner = authorView := by
  cases nests with
  | shown shows inside =>
      rw [content_of_shelf shows] at inside
      exact absurd inside not_contains_named
  | @listed _ _ items isCollection collects lists inside =>
      obtain ⟨rfl, rfl⟩ := collects_of_shelf isCollection collects
      have both : items = .list [named "Author 1", named "Author 2"] := by
        cases lists
        rfl
      subst both
      cases inside with
      | list member inside =>
          rcases List.mem_pair.mp member with rfl | rfl
          · exact absurd inside not_contains_named
          · exact absurd inside not_contains_named
  | collected isCollection collects => exact collects_of_shelf isCollection collects

theorem regular_shelf : Regular shelf where
  keepsContract := by unfold App.KeepsContract; decide
  inherits type isCollection := by
    rcases isCollection_of_shelf isCollection with rfl | rfl <;> rfl
  acyclic := by
    refine @acyclic_of_falls shelf (fun type => if type = authorList then 1 else 0) ?_
    intro outer inner nests
    obtain ⟨rfl, rfl⟩ := nests_shelf nests
    decide

theorem filled_authorList : Filled shelf authorList := by
  intro _ items lists
  cases lists
  exact fun none_ => Option.some_ne_none _ (Except.ok.inj none_)

/-- The author is remembered from a call of its own. -/
def asked : Run := (after ((Call.resource authorView).perform shelf) {}).2

theorem reached_asked : Reached shelf asked := .call (.fresh rfl) _

theorem resolve_authorList :
    Regular shelf ∧ shelf.isCollection authorList = true ∧
      (shelf.statusOf authorList).toWhole = .ok 206 ∧ Filled shelf authorList ∧
      Reached shelf asked ∧ Reached shelf {} ∧
      ∃ reply, answer shelf authorList = .ok reply ∧
        reply.data =
          .map [(.text "authors", .list [named "Author 1", named "Author 2"])] ∧
        reply.status.toWhole = .ok 206 ∧
        (after (resolve shelf (.type authorList) true none) asked).1.toOption.map
            (fun response => (response.status, response.body)) =
          (after (Node.inferWith (nested shelf) none reply.data) {}).1.toOption.map
            fun node => (206, some node) := by
  have isCollection : shelf.isCollection authorList = true := rfl
  have whole : (shelf.statusOf authorList).toWhole = .ok 206 := rfl
  have fresh : Reached shelf {} := .fresh rfl
  have ⟨_, documented⟩ := resolve_answer regular_shelf (.inr isCollection) whole
    filled_authorList reached_asked fresh none
  have ⟨status, body⟩ := documented _ rfl
  exact ⟨regular_shelf, isCollection, whole, filled_authorList, reached_asked, fresh,
    _, rfl, rfl, status, body⟩

end Response
end RouteDocs
