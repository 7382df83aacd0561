import Mathlib.Data.List.Perm.Subperm
import Mathlib.Logic.Relation
import RouteDocs.Proofs.Outcome
import RouteDocs.Proofs.Schema.Inference
import RouteDocs.Response.Resolve

/-!
The schemas that a cache would remember, computed from nothing each time. Samples come
without a run, since how often they were made does not show in them.
-/

namespace RouteDocs.Response

open Schema (Node)

section

variable (app : App)

def samplesOf (entity : ClassName) (count : Nat) : Outcome (List Entity) :=
  match Entity.factory? app entity with
  | none => .error (.noFactory entity)
  | some factory => Entity.samples app entity factory count

def firstOf (entity : ClassName) : Outcome Entity := do
  match ← samplesOf app entity 1 with
  | [] => throw (.fault .missingItem)
  | first :: _ => pure first

/-- What a resource shows of the sample that it is documented from. -/
def shownBy (resource : ClassName) : Outcome Value := do
  let entity ← entityOf app resource
  let sample ← firstOf app entity
  app.contentOf resource sample

/-- What a collection of the given resources lists. -/
def listedBy (collection resource : ClassName) : Outcome Value := do
  let entity ← entityOf app resource
  let samples ← samplesOf app entity 2
  app.itemsOf collection samples

def resourceAlone (convert : Option String → ClassName → Outcome Node) (resource : ClassName) :
    Outcome Node := do
  let content ← shownBy app resource
  Node.inferWith convert none content

/-- The items of a list of resources look like its first one, if there is one. -/
def itemAlone (convert : Option String → ClassName → Outcome Node) (resource : ClassName) :
    Option Value → Outcome Node
  | none => resourceAlone app convert resource
  | some first => Node.inferWith convert none first

def collectionAlone (convert : Option String → ClassName → Outcome Node)
    (collection : ClassName) : Outcome Node :=
  if !app.isCollection collection then
    throw (.fault (.classHasNoAttribute collection.name "collects"))
  else match app.collected? collection with
    | none => throw (.untypedResource collection (some (needsResource collection)))
    | some resource => do
        let items ← listedBy app collection resource
        let first? ← firstItem items
        let node ← itemAlone app convert resource first?
        pure (Node.ofArray none node)

def shapeAlone (convert : Option String → ClassName → Outcome Node) (type : ClassName) :
    Outcome Node :=
  if app.isCollection type then collectionAlone app convert type
  else resourceAlone app convert type

def convertAlone : (depth : Nat) → Option String → ClassName → Outcome Node
  | 0, _, _ => throw (.fault .circularNesting)
  | depth + 1, name, type => do
      let node ← shapeAlone app (convertAlone depth) type
      pure (node.rename name)

def nestedAlone : Option String → ClassName → Outcome Node :=
  convertAlone app (app.classes.length + 1)

def shape (type : ClassName) : Outcome Node :=
  shapeAlone app (convertAlone app (app.classes.length + 1)) type

variable {app}

theorem shownBy_of_entity {resource entity : ClassName}
    (shows : entityOf app resource = .ok entity) :
    shownBy app resource = firstOf app entity >>= app.contentOf resource := by
  unfold shownBy
  rw [shows]
  rfl

theorem listedBy_of_entity {collection resource entity : ClassName}
    (shows : entityOf app resource = .ok entity) :
    listedBy app collection resource = samplesOf app entity 2 >>= app.itemsOf collection := by
  unfold listedBy
  rw [shows]
  rfl

theorem collectionAlone_of_collects {convert : Option String → ClassName → Outcome Node}
    {collection resource : ClassName} (isCollection : app.isCollection collection = true)
    (collects : app.collected? collection = some resource) :
    collectionAlone app convert collection =
      listedBy app collection resource >>= fun items =>
        firstItem items >>= fun first? =>
          itemAlone app convert resource first? >>= fun node => pure (Node.ofArray none node) := by
  unfold collectionAlone
  rw [isCollection, collects]
  rfl

variable (app)

/-- The rendered sample of one class contains the other, or a collection is made of it. -/
inductive Nests : ClassName → ClassName → Prop
  | shown {resource inner : ClassName} {content : Value}
      (shows : shownBy app resource = .ok content) (inside : content.Contains inner) :
      Nests resource inner
  | listed {collection resource inner : ClassName} {items : Value}
      (isCollection : app.isCollection collection = true)
      (collects : app.collected? collection = some resource)
      (lists : listedBy app collection resource = .ok items) (inside : items.Contains inner) :
      Nests collection inner
  | collected {collection resource : ClassName}
      (isCollection : app.isCollection collection = true)
      (collects : app.collected? collection = some resource) : Nests collection resource

end

/-! The depth to which classes are nested. -/

section

variable {α : Type}

/-- Every way along the relation from here comes to its end before the given depth. -/
def EndsWithin (related : α → α → Prop) : (depth : Nat) → α → Prop
  | 0, _ => False
  | depth + 1, a => ∀ b, related a b → EndsWithin related depth b

theorem EndsWithin.succ {related : α → α → Prop} {depth : Nat} {a : α}
    (ends : EndsWithin related depth a) : EndsWithin related (depth + 1) a := by
  induction depth generalizing a with
  | zero => exact ends.elim
  | succ depth induction =>
      intro b step
      exact induction (ends b step)

variable {related : α → α → Prop} {sources : List α}

/-- The points passed on the way are all different, and there are no more of them than
sources. -/
theorem endsWithin_of_passed (acyclic : ∀ a, ¬ Relation.TransGen related a a)
    (source : ∀ a b, related a b → a ∈ sources) :
    ∀ (depth : Nat) (passed : List α) (a : α), passed.Nodup →
      (∀ p ∈ passed, p ∈ sources ∧ Relation.TransGen related p a) →
      sources.length < depth + passed.length → EndsWithin related depth a := by
  intro depth
  induction depth with
  | zero =>
      intro passed a distinct before many
      have most : passed.length ≤ sources.length :=
        (distinct.subperm fun p member => (before p member).1).length_le
      omega
  | succ depth induction =>
      intro passed a distinct before many b step
      have fresh : a ∉ passed := fun member => acyclic a (before a member).2
      apply induction (a :: passed) b (List.nodup_cons.mpr ⟨fresh, distinct⟩)
      · intro p member
        rcases List.mem_cons.mp member with here | earlier
        · subst here
          exact ⟨source p b step, .single step⟩
        · exact ⟨(before p earlier).1, (before p earlier).2.tail step⟩
      · rw [List.length_cons]
        omega

theorem endsWithin_of_acyclic (acyclic : ∀ a, ¬ Relation.TransGen related a a)
    (source : ∀ a b, related a b → a ∈ sources) (a : α) :
    EndsWithin related (sources.length + 1) a :=
  endsWithin_of_passed acyclic source _ [] a List.nodup_nil (by simp) (by simp)

end

end RouteDocs.Response
