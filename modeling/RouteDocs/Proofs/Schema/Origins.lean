import RouteDocs.Proofs.Schema.Lossless

/-!
Where the types in the tree of fields come from. Fields give types to their own nodes, and these stay
whatever comes later; no other type is made up but that of a node that holds others, and the one that
is assumed for the rest.
-/

namespace RouteDocs.Schema.Node

open Relation (ReflTransGen)

/-- A node of the tree, at any depth, has the type. -/
def HoldsType (type : FieldType) (tree : Node) : Prop :=
  ∃ node, ReflTransGen Holds tree node ∧ node.type = some type

theorem holdsType_iff {type : FieldType} {tree : Node} :
    tree.HoldsType type ↔ tree.type = some type ∨ (∃ child ∈ tree.children, child.HoldsType type) ∨
      ∃ items, tree.items = some items ∧ items.HoldsType type := by
  constructor
  · rintro ⟨node, under, typed⟩
    rcases under.cases_head with rfl | ⟨next, holds, under⟩
    · exact .inl typed
    · cases holds with
      | child member => exact .inr (.inl ⟨next, member, node, under, typed⟩)
      | items found => exact .inr (.inr ⟨next, found, node, under, typed⟩)
  · rintro (typed | ⟨child, member, node, under, typed⟩ | ⟨items, found, node, under, typed⟩)
    · exact ⟨tree, .refl, typed⟩
    · exact ⟨node, .head (.child member) under, typed⟩
    · exact ⟨node, .head (.items found) under, typed⟩

mutual

/-- The types of all nodes of a tree. -/
def types : Node → List FieldType
  | ⟨_, type, _, children, items⟩ => type.toList ++ (typesOfAll children ++ typesOfItems items)

def typesOfAll : List Node → List FieldType
  | [] => []
  | child :: rest => types child ++ typesOfAll rest

def typesOfItems : Option Node → List FieldType
  | none => []
  | some items => types items

end

section

variable {type : FieldType}

mutual

theorem mem_types : (tree : Node) → (type ∈ tree.types ↔ tree.HoldsType type)
  | ⟨_, _, _, children, items⟩ => by
      rw [types, List.mem_append, List.mem_append, Option.mem_toList, mem_typesOfAll children,
        mem_typesOfItems items, holdsType_iff]

theorem mem_typesOfAll : (children : List Node) →
    (type ∈ typesOfAll children ↔ ∃ child ∈ children, child.HoldsType type)
  | [] => by simp [typesOfAll]
  | child :: rest => by
      rw [typesOfAll, List.mem_append, mem_types child, mem_typesOfAll rest, List.exists_mem_cons_iff]

theorem mem_typesOfItems : (items : Option Node) →
    (type ∈ typesOfItems items ↔ ∃ template, items = some template ∧ template.HoldsType type)
  | none => by simp [typesOfItems]
  | some template => by simp [typesOfItems, mem_types template]

end

instance (tree : Node) : Decidable (tree.HoldsType type) :=
  decidable_of_iff _ (mem_types tree)

end

/-- A type that a field gives, or that a node gets for what it holds. -/
def Sourced (fields : List Field) (type : FieldType) : Prop :=
  type = .object ∨ type = .array ∨ ∃ f ∈ fields, f.type = some type

theorem Sourced.concat {fields : List Field} {type : FieldType} (sourced : Sourced fields type)
    (f : Field) : Sourced (fields ++ [f]) type := by
  rcases sourced with object | array | ⟨g, member, gives⟩
  · exact .inl object
  · exact .inr (.inl array)
  · exact .inr (.inr ⟨g, List.mem_append_left _ member, gives⟩)

theorem sourced_holderType (fields : List Field) (next : String) :
    Sourced fields (holderType next) := by
  rw [holderType]
  split
  · exact .inr (.inl rfl)
  · exact .inl rfl

theorem type_of_over {label : Label} {known : Option Label} {type : FieldType}
    (typed : (label.over known).type = some type) :
    label.type = some type ∨ ∃ earlier, known = some earlier ∧ earlier.type = some type := by
  cases known with
  | none => exact .inl typed
  | some earlier =>
      cases named : FieldType.named? label.type with
      | none =>
          rw [Label.over, named, Option.none_or] at typed
          exact .inr ⟨earlier, rfl, typed⟩
      | some own =>
          rw [Label.over, named, Option.some_or] at typed
          exact .inl (typed ▸ (named?_eq_some.mp named).1)

theorem type_of_holding {asked type : FieldType} {known : Label}
    (typed : (known.holding asked).type = some type) : known.type = some type ∨ type = asked := by
  cases named : FieldType.named? known.type with
  | none =>
      rw [Label.holding, named] at typed
      exact .inr (Option.some.inj typed).symm
  | some own =>
      rw [Label.holding, named] at typed
      exact .inl (typed ▸ (named?_eq_some.mp named).1)

/-- One field more brings its own type, or that of a node which holds it. -/
theorem sourced_insert {fields : List Field} {f : Field} {root : Node}
    (before : ∀ path known type, path ≠ [] → root.label? path = some known →
      known.type = some type → Sourced fields type) {path : List String} {known : Label}
    {type : FieldType} (below : path ≠ [])
    (labelled : (insert (ofField f) (segments f.name) root).label? path = some known)
    (typed : known.type = some type) : Sourced (fields ++ [f]) type := by
  rw [label?_insert rfl rfl (segments_ne_nil f.name) below] at labelled
  split at labelled
  · cases labelled
    rcases type_of_over typed with own | ⟨earlier, found, gives⟩
    · exact .inr (.inr ⟨f, by simp, own⟩)
    · exact (before _ _ _ (segments_ne_nil f.name) found gives).concat f
  · split at labelled
    · rename_i asked through
      cases labelled
      rcases type_of_holding typed with kept | rfl
      · cases found : root.label? path with
        | none =>
            rw [found] at kept
            cases kept
        | some earlier =>
            rw [found] at kept
            exact (before _ _ _ below found kept).concat f
      · obtain ⟨next, -, rfl⟩ := typeThrough?_eq_some.mp through
        exact sourced_holderType _ next
    · exact (before _ _ _ below labelled typed).concat f

theorem sourced_fold {fields : List Field} {path : List String} {known : Label}
    {type : FieldType} (below : path ≠ []) (labelled : (fold fields).label? path = some known)
    (typed : known.type = some type) : Sourced fields type := by
  induction fields using List.reverseRecOn generalizing path known type with
  | nil =>
      have leaf : (fold []).label? path = none := label?_of_leaf rfl rfl below
      rw [leaf] at labelled
      cases labelled
  | append_singleton fields f induction =>
      rw [fold_concat] at labelled
      exact sourced_insert (fun _ _ _ => induction) below labelled typed

theorem sourced_fillTypes {fields : List Field} {default type : FieldType} {node : Node}
    (before : ∀ type, node.type = some type → Sourced fields type)
    (typed : (fillTypes default node).type = some type) :
    type = default ∨ Sourced fields type := by
  rw [fillTypes_eq] at typed
  cases given : node.type with
  | some own =>
      rw [given] at typed
      exact .inr (before type (given.trans typed))
  | none =>
      rw [given] at typed
      cases typed
      dsimp only [Option.getD_none]
      split
      · exact .inr (.inl rfl)
      · split
        · exact .inr (.inr (.inl rfl))
        · exact .inl rfl

/-- Whatever the names of the fields, no type is made up. -/
theorem sourced_ofFields {fields : List Field} {default type : FieldType}
    (holds : (ofFields fields default).HoldsType type) :
    type = default ∨ Sourced fields type := by
  obtain ⟨node, under, typed⟩ := holds
  rcases Relation.reflTransGen_iff_eq_or_transGen.mp under with rfl | below
  · have root : (ofFields fields default).type = some .object :=
      congrArg Label.type (label_ofFields fields default)
    exact .inr (.inl (Option.some.inj (typed.symm.trans root)))
  · obtain ⟨path, nonempty, reached⟩ := (tidy_ofFields fields default).exists_path below
    rw [ofFields_eq, reach?_fillTypes] at reached
    obtain ⟨unfilled, found, rfl⟩ := Option.map_eq_some_iff.mp reached
    refine sourced_fillTypes (fun given gives => ?_) typed
    exact sourced_fold nonempty (by rw [label?, found]; rfl) gives

/-- A type that a field gives stays, if no other field has its name. -/
theorem holdsType_ofFields {fields : List Field} (distinct : (fields.map Field.name).Nodup)
    (default : FieldType) {f : Field} (member : f ∈ fields) {type : FieldType}
    (gives : f.type = some type) (named : type.isBlank = false) :
    (ofFields fields default).HoldsType type := by
  obtain ⟨node, reached, _, _, typed⟩ := (ofFields_lossless distinct default).reached f member
  exact ⟨node, under_of_reach? reached, typed type gives named⟩

end RouteDocs.Schema.Node
