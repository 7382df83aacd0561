import RouteDocs.Proofs.App.Ends
import RouteDocs.Proofs.Response.Nesting

/-!
How deep classes are nested. A conversion to a greater depth gives the same wherever the lesser
one comes to an end, and no depth is enough where a class is nested in itself.
-/

namespace RouteDocs

namespace Outcome

variable {α β : Type}

/-- Both give the same, unless the first one nests classes too deeply. -/
def Approaches (outcome other : Outcome α) : Prop := outcome = .error .exhaustion ∨ outcome = other

theorem Approaches.refl (outcome : Outcome α) : Approaches outcome outcome := .inr rfl

theorem Approaches.trans {first second third : Outcome α} (early : Approaches first second)
    (late : Approaches second third) : Approaches first third := by
  rcases early with exhausts | rfl
  · exact .inl exhausts
  · exact late

theorem Approaches.eq {outcome other : Outcome α} (approaches : Approaches outcome other)
    (ends : outcome.Ends) : outcome = other :=
  approaches.resolve_left ends

theorem Approaches.antisymm {outcome other : Outcome α} (there : Approaches outcome other)
    (back : Approaches other outcome) : outcome = other := by
  rcases there with exhausts | same
  · rcases back with also | same
    · rw [exhausts, also]
    · exact same.symm
  · exact same

theorem Approaches.bind {outcome other : Outcome α} {next later : α → Outcome β}
    (first : Approaches outcome other)
    (follows : ∀ a, outcome = .ok a → Approaches (next a) (later a)) :
    Approaches (outcome >>= next) (other >>= later) := by
  rcases first with exhausts | same
  · rw [exhausts]
    exact .inl rfl
  · subst same
    cases outcome with
    | error failure => exact .refl _
    | ok a => exact follows a rfl

theorem Approaches.bind_error {outcome : Outcome α} {next : α → Outcome β} {failure : Failure}
    (approaches : Approaches outcome (.error failure)) :
    Approaches (outcome >>= next) (.error failure) := by
  rcases approaches with exhausts | same
  · rw [exhausts]
    exact .inl rfl
  · rw [same]
    exact .refl _

theorem Approaches.error_bind {outcome : Outcome α} {next : α → Outcome β} {failure : Failure}
    (approaches : Approaches (.error failure) outcome) :
    Approaches (.error failure) (outcome >>= next) := by
  rcases approaches with exhausts | same
  · exact .inl (congrArg Except.error (Except.error.inj exhausts))
  · rw [← same]
    exact .refl _

theorem exhausts_of_bind {outcome : Outcome α} {next : α → Outcome β}
    (exhausts : outcome >>= next = .error .exhaustion) :
    outcome = .error .exhaustion ∨ ∃ a, outcome = .ok a ∧ next a = .error .exhaustion := by
  cases outcome with
  | error failure => exact .inl (congrArg Except.error (Except.error.inj exhausts))
  | ok a => exact .inr ⟨a, rfl, exhausts⟩

theorem bind_exhausts_iff {outcome : Outcome α} {next : α → Outcome β}
    (ends : ∀ a, outcome = .ok a → (next a).Ends) :
    outcome >>= next = .error .exhaustion ↔ outcome = .error .exhaustion := by
  constructor
  · intro exhausts
    rcases exhausts_of_bind exhausts with here | ⟨a, gives, there⟩
    · exact here
    · exact absurd there (ends a gives)
  · intro exhausts
    rw [exhausts]
    rfl

theorem bind_pure_exhausts_iff {outcome : Outcome α} {f : α → β} :
    (outcome >>= fun a => pure (f a)) = .error .exhaustion ↔ outcome = .error .exhaustion :=
  bind_exhausts_iff fun _ _ => ends_ok _

theorem Ends.bind_exhausts_iff {outcome : Outcome α} {next : α → Outcome β} (ends : outcome.Ends) :
    outcome >>= next = .error .exhaustion ↔
      ∃ a, outcome = .ok a ∧ next a = .error .exhaustion := by
  constructor
  · exact fun exhausts => (exhausts_of_bind exhausts).resolve_left ends
  · rintro ⟨a, gives, exhausts⟩
    rw [gives]
    exact exhausts

end Outcome

open Outcome (Approaches)

namespace Response

open Schema (Node)
open Relation (TransGen ReflTransGen)

/-! Which resources the walk through a value comes to. -/

/-- The walk through a value comes to a resource of the class. The rest of a list is not looked
at, and what stands after something that cannot be converted is not reached. -/
inductive Comes (convert : Option String → ClassName → Outcome Node) (inner : ClassName) :
    Value → Prop
  | rendering : Comes convert inner (.rendering inner)
  | list {first : Value} {rest : List Value} (inside : Comes convert inner first) :
      Comes convert inner (.list (first :: rest))
  | tuple {first : Value} {rest : List Value} (inside : Comes convert inner first) :
      Comes convert inner (.tuple (first :: rest))
  | map {early late : List (Value × Value)} {entry : Value × Value}
      (passed : ∀ other ∈ early, ∃ node,
        Node.inferWith convert (some other.1.display) other.2 = .ok node)
      (inside : Comes convert inner entry.2) : Comes convert inner (.map (early ++ entry :: late))
  | view {early late : List (Value × Value)} {entry : Value × Value}
      (passed : ∀ other ∈ early, ∃ node,
        Node.inferWith convert (some other.1.display) other.2 = .ok node)
      (inside : Comes convert inner entry.2) : Comes convert inner (.view (early ++ entry :: late))
  | kept {mark : Mark} {value : Value} (inside : Comes convert inner value) :
      Comes convert inner (.kept mark value)

section

variable {convert other : Option String → ClassName → Outcome Node}

def approaching : Node.Correspondence Outcome Outcome where
  rel := Approaches
  rel_pure _ := .refl _
  rel_throw _ := .refl _
  rel_bind first follows := first.bind fun a _ => follows a

theorem approaches_infer (approach : ∀ name type, Approaches (convert name type) (other name type))
    (name : Option String) (value : Value) :
    Approaches (Node.inferWith convert name value) (Node.inferWith other name value) :=
  Node.inferWith_rel approaching name value fun type _ name => approach name type

mutual

/-- If a value is nested too deeply, then a resource is that the walk comes to. -/
theorem comes_of_exhausts : (name : Option String) → (value : Value) →
    Node.inferWith convert name value = .error .exhaustion →
    ∃ inner under, Comes convert inner value ∧ convert under inner = .error .exhaustion
  | name, .rendering type, exhausts => ⟨type, name, .rendering, exhausts⟩
  | name, .kept mark value, exhausts => by
      obtain ⟨inner, under, comes, deep⟩ := comes_of_exhausts name value exhausts
      exact ⟨inner, under, .kept comes, deep⟩
  | name, .list (first :: _), exhausts => by
      obtain ⟨inner, under, comes, deep⟩ := comes_of_first name first exhausts
      exact ⟨inner, under, .list comes, deep⟩
  | name, .tuple (first :: _), exhausts => by
      obtain ⟨inner, under, comes, deep⟩ := comes_of_first name first exhausts
      exact ⟨inner, under, .tuple comes, deep⟩
  | _, .map entries, exhausts => by
      rcases Outcome.exhausts_of_bind exhausts with inside | ⟨_, _, gives⟩
      · obtain ⟨early, entry, late, rfl, passed, inner, under, comes, deep⟩ :=
          comes_of_entries entries inside
        exact ⟨inner, under, .map passed comes, deep⟩
      · cases gives
  | _, .view entries, exhausts => by
      rcases Outcome.exhausts_of_bind exhausts with inside | ⟨_, _, gives⟩
      · obtain ⟨early, entry, late, rfl, passed, inner, under, comes, deep⟩ :=
          comes_of_entries entries inside
        exact ⟨inner, under, .view passed comes, deep⟩
      · cases gives
  | _, .range start stop, exhausts => by
      rw [Node.inferWith] at exhausts
      split at exhausts <;> cases exhausts

theorem comes_of_first : (name : Option String) → (first : Value) →
    (do pure (Node.ofArray name (← Node.inferWith convert none first)) : Outcome Node) =
      .error .exhaustion →
    ∃ inner under, Comes convert inner first ∧ convert under inner = .error .exhaustion
  | _, first, exhausts => by
      rcases Outcome.exhausts_of_bind exhausts with inside | ⟨_, _, gives⟩
      · exact comes_of_exhausts none first inside
      · cases gives

theorem comes_of_entries : (entries : List (Value × Value)) →
    Node.inferEntries convert entries = .error .exhaustion →
    ∃ early entry late, entries = early ++ entry :: late ∧
      (∀ other ∈ early, ∃ node,
        Node.inferWith convert (some other.1.display) other.2 = .ok node) ∧
      ∃ inner under, Comes convert inner entry.2 ∧ convert under inner = .error .exhaustion
  | (key, value) :: rest, exhausts => by
      rcases Outcome.exhausts_of_bind exhausts with here | ⟨node, gives, there⟩
      · exact ⟨[], (key, value), rest, rfl, by simp, comes_of_exhausts _ value here⟩
      · rcases Outcome.exhausts_of_bind there with further | ⟨_, _, gives⟩
        · obtain ⟨early, entry, late, same, passed, found⟩ := comes_of_entries rest further
          refine ⟨(key, value) :: early, entry, late, by rw [same]; rfl, ?_, found⟩
          exact List.forall_mem_cons.mpr ⟨⟨node, gives⟩, passed⟩
        · cases gives

end

theorem exhausts_of_entries {early late : List (Value × Value)} {entry : Value × Value}
    (passed : ∀ earlier ∈ early,
      Node.inferWith convert (some earlier.1.display) earlier.2 = .error .exhaustion ∨
        ∃ node, Node.inferWith convert (some earlier.1.display) earlier.2 = .ok node)
    (deep : Node.inferWith convert (some entry.1.display) entry.2 = .error .exhaustion) :
    Node.inferEntries convert (early ++ entry :: late) = .error .exhaustion := by
  induction early with
  | nil =>
      obtain ⟨key, value⟩ := entry
      rw [List.nil_append, Node.inferEntries, deep]
      rfl
  | cons earlier rest induction =>
      obtain ⟨key, value⟩ := earlier
      rw [List.cons_append, Node.inferEntries]
      rcases passed (key, value) List.mem_cons_self with exhausts | ⟨node, gives⟩
      · rw [exhausts]
        rfl
      · rw [gives, induction fun other member => passed other (List.mem_cons_of_mem _ member)]
        rfl

/-- Where the walk comes to a resource that is nested too deeply, so is the value. The values on
the way may be converted to another depth than they are said to be passed at. -/
theorem exhausts_of_comes {inner : ClassName} {value : Value} (comes : Comes other inner value)
    (agrees : ∀ name value node, Node.inferWith other name value = .ok node →
      Approaches (Node.inferWith convert name value) (.ok node))
    (deep : ∀ name, convert name inner = .error .exhaustion) (name : Option String) :
    Node.inferWith convert name value = .error .exhaustion := by
  induction comes generalizing name with
  | rendering => exact deep name
  | list _ induction | tuple _ induction =>
      rw [Node.inferWith, Node.inferFirst, induction]
      rfl
  | map passed _ induction | view passed _ induction =>
      rw [Node.inferWith, exhausts_of_entries ?_ (induction _)]
      · rfl
      · intro earlier member
        obtain ⟨node, gives⟩ := passed earlier member
        exact (agrees _ _ node gives).imp_right fun same => ⟨node, same⟩
  | kept _ induction =>
      rw [Node.inferWith]
      exact induction name

theorem Comes.imp {inner : ClassName} {value : Value} (comes : Comes convert inner value)
    (passes : ∀ name value node, Node.inferWith convert name value = .ok node →
      ∃ made, Node.inferWith other name value = .ok made) : Comes other inner value := by
  induction comes with
  | rendering => exact .rendering
  | list _ induction => exact .list induction
  | tuple _ induction => exact .tuple induction
  | map passed _ induction =>
      refine .map (fun earlier member => ?_) induction
      obtain ⟨node, gives⟩ := passed earlier member
      exact passes _ _ node gives
  | view passed _ induction =>
      refine .view (fun earlier member => ?_) induction
      obtain ⟨node, gives⟩ := passed earlier member
      exact passes _ _ node gives
  | kept _ induction => exact .kept induction

end

/-! What is walked through to document a class. -/

section

variable (app : App)

/-- What a class is documented from: what its resource shows, or the first of its items. -/
def walked (type : ClassName) : Outcome Value :=
  if app.isCollection type then
    match app.collected? type with
    | none => throw (.untypedResource type (some (needsResource type)))
    | some resource => do
        match ← firstItem (← listedBy app type resource) with
        | none => shownBy app resource
        | some first => pure first
  else shownBy app type

/-- The schema of a class, once there is one for what it is documented from. -/
def framed (type : ClassName) (node : Node) : Node :=
  if app.isCollection type then Node.ofArray none node else node

theorem shapeAlone_eq (convert : Option String → ClassName → Outcome Node) (type : ClassName) :
    shapeAlone app convert type =
      walked app type >>= fun value => framed app type <$> Node.inferWith convert none value := by
  unfold shapeAlone walked
  cases isCollection : app.isCollection type with
  | false =>
      have same : framed app type = id := by
        funext node
        unfold framed
        rw [isCollection]
        rfl
      rw [same]
      simp only [id_map]
      rfl
  | true =>
      have same : framed app type = Node.ofArray none := by
        funext node
        unfold framed
        rw [isCollection]
        rfl
      rw [if_pos rfl, if_pos rfl, same]
      cases collects : app.collected? type with
      | none =>
          unfold collectionAlone
          rw [isCollection, collects]
          rfl
      | some resource =>
          rw [collectionAlone_of_collects isCollection collects]
          dsimp only
          rw [bind_assoc]
          congr 1
          funext items
          rw [bind_assoc]
          congr 1
          funext first?
          cases first? with
          | none => simp only [itemAlone, resourceAlone, map_bind, bind_pure_comp]
          | some first => simp only [itemAlone, pure_bind, bind_pure_comp]

theorem ends_firstOf (entity : ClassName) : (firstOf app entity).Ends := by
  refine (ends_samplesOf app entity 1).bind fun samples _ => ?_
  split
  · exact Outcome.ends_error nofun
  · exact Outcome.ends_ok _

theorem ends_shownBy (resource : ClassName) : (shownBy app resource).Ends := by
  refine (ends_entityOf app resource).bind fun entity _ => ?_
  exact (ends_firstOf app entity).bind fun sample _ => app.ends_contentOf resource sample

theorem ends_walked (type : ClassName) : (walked app type).Ends := by
  unfold walked
  split
  · split
    · exact Outcome.ends_error nofun
    · refine Outcome.Ends.bind ?_ fun items _ => ?_
      · refine (ends_entityOf app _).bind fun entity _ => ?_
        exact (ends_samplesOf app entity 2).bind fun samples _ => app.ends_itemsOf type samples
      · refine (ends_firstItem items).bind fun first? _ => ?_
        cases first? with
        | none => exact ends_shownBy app _
        | some first => exact Outcome.ends_ok first
  · exact ends_shownBy app type

end

/-! To greater depths. -/

section

variable {app : App}

theorem approaches_shapeAlone {convert other : Option String → ClassName → Outcome Node}
    (approach : ∀ name type, Approaches (convert name type) (other name type)) (type : ClassName) :
    Approaches (shapeAlone app convert type) (shapeAlone app other type) := by
  rw [shapeAlone_eq, shapeAlone_eq]
  refine (Approaches.refl _).bind fun value _ => ?_
  rw [map_eq_pure_bind, map_eq_pure_bind]
  exact (approaches_infer approach none value).bind fun _ _ => .refl _

theorem approaches_succ (depth : Nat) (name : Option String) (type : ClassName) :
    Approaches (convertAlone app depth name type) (convertAlone app (depth + 1) name type) := by
  induction depth generalizing name type with
  | zero => exact .inl rfl
  | succ depth induction =>
      rw [convertAlone, convertAlone]
      exact (approaches_shapeAlone induction type).bind fun _ _ => .refl _

theorem approaches_add (depth more : Nat) (name : Option String) (type : ClassName) :
    Approaches (convertAlone app depth name type) (convertAlone app (depth + more) name type) := by
  induction more with
  | zero => exact .refl _
  | succ more induction => exact induction.trans (approaches_succ (depth + more) name type)

/-- To either depth the same values are converted in the same way, or they are too deep. -/
theorem approaches_of_infer {depth other : Nat} {name : Option String} {value : Value} {node : Node}
    (gives : Node.inferWith (convertAlone app other) name value = .ok node) :
    Approaches (Node.inferWith (convertAlone app depth) name value) (.ok node) := by
  rcases Nat.le_total depth other with within | beyond
  · obtain ⟨more, rfl⟩ := Nat.exists_eq_add_of_le within
    rw [← gives]
    exact approaches_infer (approaches_add depth more) name value
  · obtain ⟨more, rfl⟩ := Nat.exists_eq_add_of_le beyond
    have same : Node.inferWith (convertAlone app other) name value =
        Node.inferWith (convertAlone app (other + more)) name value :=
      (approaches_infer (approaches_add other more) name value).eq (gives ▸ Outcome.ends_ok node)
    exact .inr (same ▸ gives)

theorem exhausts_succ_iff {depth : Nat} {type : ClassName} (name : Option String) :
    convertAlone app (depth + 1) name type = .error .exhaustion ↔
      ∃ value, walked app type = .ok value ∧
        Node.inferWith (convertAlone app depth) none value = .error .exhaustion := by
  rw [convertAlone, Outcome.bind_pure_exhausts_iff, shapeAlone_eq,
    (ends_walked app type).bind_exhausts_iff]
  simp only [map_eq_pure_bind, Outcome.bind_pure_exhausts_iff]

end

end Response

/-! Ways that come back. -/

section

open Relation (TransGen ReflTransGen)
open Response (EndsWithin)

variable {α : Type} {related : α → α → Prop}

/-- From here a point is reached that leads back to itself. -/
def Circular (related : α → α → Prop) (a : α) : Prop :=
  ∃ b, ReflTransGen related a b ∧ TransGen related b b

theorem Response.EndsWithin.reached {depth : Nat} {a b : α} (ends : EndsWithin related depth a)
    (reaches : ReflTransGen related a b) : EndsWithin related depth b := by
  induction reaches with
  | refl => exact ends
  | tail _ step induction =>
      cases depth with
      | zero => exact induction.elim
      | succ depth => exact (induction _ step).succ

theorem Response.EndsWithin.not_circular {depth : Nat} {a : α} (ends : EndsWithin related depth a) :
    ¬ Circular related a := by
  rintro ⟨b, reaches, back⟩
  have here := ends.reached reaches
  clear reaches ends
  induction depth with
  | zero => exact here
  | succ depth induction =>
      obtain ⟨c, step, reaches⟩ := TransGen.head'_iff.mp back
      exact induction (EndsWithin.reached (here c step) reaches)

/-- Where no way comes back, each comes to its end among the sources. -/
theorem endsWithin_of_not_circular {sources : List α} {a : α} (ends : ¬ Circular related a)
    (source : ∀ b c, related b c → b ∈ sources) : EndsWithin related (sources.length + 1) a := by
  -- Elsewhere ways may come back, so only those count that go on from here.
  have within {b c : α} (reaches : TransGen (fun b c => related b c ∧ ReflTransGen related a b) b c) :
      TransGen related b c ∧ ReflTransGen related a b := by
    induction reaches with
    | single step => exact ⟨.single step.1, step.2⟩
    | tail _ step induction => exact ⟨induction.1.tail step.1, induction.2⟩
  have restricted : EndsWithin (fun b c => related b c ∧ ReflTransGen related a b)
      (sources.length + 1) a :=
    Response.endsWithin_of_acyclic
      (fun b back => ends ⟨b, (within back).2, (within back).1⟩)
      (fun b c step => source b c step.1) a
  have whole (depth : Nat) (b : α) (reaches : ReflTransGen related a b)
      (ends : EndsWithin (fun b c => related b c ∧ ReflTransGen related a b) depth b) :
      EndsWithin related depth b := by
    induction depth generalizing b with
    | zero => exact ends
    | succ depth induction =>
        exact fun c step => induction c (reaches.tail step) (ends c ⟨step, reaches⟩)
  exact whole _ a .refl restricted

end

namespace Response

open Schema (Node)
open Relation (TransGen ReflTransGen)

variable {app : App}

/-- What the one class is documented from contains a resource of the other one, and the walk comes
to it. -/
def Leads (app : App) (outer inner : ClassName) : Prop :=
  ∃ value, walked app outer = .ok value ∧ Comes (nestedAlone app) inner value

theorem Leads.source {outer inner : ClassName} (leads : Leads app outer inner) :
    outer ∈ app.classes.map Class.name := by
  obtain ⟨value, walks, _⟩ := leads
  unfold walked at walks
  split at walks
  · rename_i isCollection
    exact App.mem_of_isA isCollection
  · obtain ⟨entity, shows⟩ := entityOf_of_shownBy walks
    exact App.mem_of_isA (isResource_of_entityOf shows)

theorem exhausts_any {depth : Nat} {name : Option String} {type : ClassName}
    (exhausts : convertAlone app depth name type = .error .exhaustion) (other : Option String) :
    convertAlone app depth other type = .error .exhaustion := by
  cases depth with
  | zero => rfl
  | succ depth => exact (exhausts_succ_iff other).mpr ((exhausts_succ_iff name).mp exhausts)

theorem ends_of_endsWithin {depth : Nat} (within : depth ≤ app.classes.length + 1)
    {type : ClassName} (ends : EndsWithin (Leads app) depth type) (name : Option String) :
    (convertAlone app depth name type).Ends := by
  induction depth generalizing type name with
  | zero => exact ends.elim
  | succ depth induction =>
      intro exhausts
      obtain ⟨value, walks, deep⟩ := (exhausts_succ_iff name).mp exhausts
      obtain ⟨inner, under, comes, further⟩ := comes_of_exhausts none value deep
      -- What is passed on the way is passed to the full depth too, where it gives the same.
      have leads : Leads app type inner := by
        refine ⟨value, walks, comes.imp fun name value node gives => ⟨node, ?_⟩⟩
        obtain ⟨more, same⟩ := Nat.exists_eq_add_of_le (Nat.le_of_succ_le within)
        rw [nestedAlone, same, ← gives]
        exact ((approaches_infer (approaches_add depth more) name value).eq
          (gives ▸ Outcome.ends_ok node)).symm
      exact induction (Nat.le_of_succ_le within) (ends inner leads) under further

/-- A way that comes back is too long for any depth. -/
theorem exhausts_of_circular {type : ClassName} (circular : Circular (Leads app) type) (depth : Nat)
    (name : Option String) : convertAlone app depth name type = .error .exhaustion := by
  by_contra ends
  -- A conversion that comes to its end bounds all ways from here, and a circle has no bound.
  have short : EndsWithin (Leads app) depth type := by
    clear circular
    induction depth generalizing type name with
    | zero => exact ends rfl
    | succ depth induction =>
        rintro inner ⟨value, walks, comes⟩
        refine induction none fun deep => ends ((exhausts_succ_iff name).mpr ⟨value, walks, ?_⟩)
        exact exhausts_of_comes comes (fun _ _ _ => approaches_of_infer) (exhausts_any deep) none
  exact short.not_circular circular

theorem ends_of_not_circular {type : ClassName} (ends : ¬ Circular (Leads app) type)
    (name : Option String) : (nestedAlone app name type).Ends := by
  have short := endsWithin_of_not_circular ends fun _ _ leads => leads.source
  rw [List.length_map] at short
  exact ends_of_endsWithin (Nat.le_refl _) short name

/-- Depths beyond the number of classes make no difference. -/
theorem convertAlone_eq {depth : Nat} (deep : app.classes.length + 1 ≤ depth) (name : Option String)
    (type : ClassName) : convertAlone app depth name type = nestedAlone app name type := by
  by_cases circular : Circular (Leads app) type
  · rw [exhausts_of_circular circular, nestedAlone, exhausts_of_circular circular]
  · obtain ⟨more, rfl⟩ := Nat.exists_eq_add_of_le deep
    exact ((approaches_add _ more name type).eq (ends_of_not_circular circular name)).symm

theorem nestedAlone_exhausts_iff {type : ClassName} (name : Option String) :
    nestedAlone app name type = .error .exhaustion ↔ Circular (Leads app) type := by
  constructor
  · intro exhausts
    by_contra ends
    exact ends_of_not_circular ends name exhausts
  · exact fun circular => exhausts_of_circular circular _ name

theorem shape_rename (name : Option String) (type : ClassName) :
    nestedAlone app name type = (shape app type).map (Node.rename name) := by
  rw [← convertAlone_eq (Nat.le_succ _), convertAlone]
  exact bind_pure_comp _ _

theorem shape_exhausts_iff {type : ClassName} :
    shape app type = .error .exhaustion ↔ Circular (Leads app) type := by
  rw [← nestedAlone_exhausts_iff none, shape_rename]
  cases shape app type with
  | error failure => exact Iff.rfl
  | ok node => exact ⟨nofun, nofun⟩

end Response
end RouteDocs
