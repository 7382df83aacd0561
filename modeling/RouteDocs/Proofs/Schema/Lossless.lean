import RouteDocs.Proofs.Schema.Folding

/-!
The tree of fields loses nothing and adds nothing: each field stands at the end of its
path with all that it says, and every node of the tree lies on the path of some field.
-/

namespace RouteDocs.Schema.Node

/-- A tree that says what the fields say, and nothing else. -/
structure Lossless (fields : List Field) (default : FieldType) (tree : Node) : Prop where
  /-- The path of a field leads to a node with its details, and with its type if that has
  a name. -/
  reached : ∀ f ∈ fields, ∃ node, tree.reach? (segments f.name) = some node ∧
    node.name = (segments f.name).getLast?.bind segmentName ∧
    node.details = (ofField f).details ∧
    ∀ type, f.type = some type → type.isBlank = false → node.type = some type
  /-- Below the root there are only nodes that the path of a field leads to. -/
  needed : ∀ node, Relation.TransGen Holds tree node →
    ∃ f ∈ fields, ∃ path, path ≠ [] ∧ path <+: segments f.name ∧
      tree.reach? path = some node
  distinct : ∀ node, Relation.ReflTransGen Holds tree node → (node.children.map name).Nodup
  /-- Each node has a type, and one without a name only if it was given such a type. -/
  typed : ∀ node, Relation.ReflTransGen Holds tree node →
    ∃ type, node.type = some type ∧
      (type.isBlank = true → type = default ∨ ∃ f ∈ fields, f.type = some type)

theorem name_of_reach? {path : List String} {root node : Node} (tidy : Tidy root)
    (below : path ≠ []) (reached : root.reach? path = some node) :
    node.name = path.getLast?.bind segmentName := by
  obtain ⟨front, last, rfl⟩ : ∃ front last, path = front ++ [last] :=
    ⟨path.dropLast, path.getLast below, (List.dropLast_append_getLast below).symm⟩
  rw [reach?_append] at reached
  obtain ⟨parent, led, reached⟩ := Option.bind_eq_some_iff.mp reached
  obtain ⟨child, found, reached⟩ := Option.bind_eq_some_iff.mp reached
  cases reached
  rw [List.getLast?_concat, Option.bind_some]
  exact (tidy.under (under_of_reach? led)).here.name_of_at? found

/-- A type without a name comes from a field. -/
theorem declared_of_blank {fields : List Field} {path : List String} {known : Label}
    {type : FieldType} (labelled : labelOf? fields path = some known)
    (typed : known.type = some type) (blank : type.isBlank = true) :
    ∃ f ∈ fields, f.type = some type := by
  rw [labelOf?] at labelled
  have unnamed : FieldType.named? known.type = none := by
    rw [typed]
    simp [FieldType.named?, blank]
  cases declared : declared? fields path with
  | none =>
      rw [declared] at labelled
      cases led : led? fields path with
      | none =>
          rw [led] at labelled
          cases labelled
      | some asked =>
          rw [led] at labelled
          cases labelled
          cases typed
          rw [led?_not_blank led] at blank
          cases blank
  | some f =>
      rw [declared] at labelled
      cases labelled
      refine ⟨f, List.mem_of_find?_eq_some declared, ?_⟩
      rw [named?_composeType _ fun _ => led?_not_blank, Option.or_eq_none_iff] at unnamed
      rw [← typed, composeType, unnamed.1, unnamed.2]
      rfl

theorem typed_of_reach? {fields : List Field} (distinct : (fields.map Field.name).Nodup)
    (default : FieldType) {path : List String} (below : path ≠ []) {node : Node}
    (reached : (ofFields fields default).reach? path = some node) :
    ∃ type, node.type = some type ∧
      (type.isBlank = true → type = default ∨ ∃ f ∈ fields, f.type = some type) := by
  have labelled := label?_ofFields distinct default below
  rw [label?, reached, Option.map_some] at labelled
  obtain ⟨known, composed, said⟩ := Option.map_eq_some_iff.mp labelled.symm
  have typed : some (known.type.getD default) = node.type := congrArg Label.type said
  refine ⟨_, typed.symm, fun blank => ?_⟩
  cases given : known.type with
  | none => exact .inl rfl
  | some type =>
      rw [given] at blank
      exact .inr (declared_of_blank composed given blank)

theorem ofFields_lossless {fields : List Field} (distinct : (fields.map Field.name).Nodup)
    (default : FieldType) : Lossless fields default (ofFields fields default) := by
  have tidy := tidy_ofFields fields default
  refine ⟨?_, ?_, ?_, ?_⟩
  · intro f member
    have below := segments_ne_nil f.name
    have labelled := label?_ofFields distinct default below
    rw [labelOf?, declared?_of_mem distinct member, compose, label?] at labelled
    obtain ⟨node, reached, said⟩ := Option.map_eq_some_iff.mp labelled
    have details : node.details = detailsOf f := congrArg Label.details said
    have typed : node.type = _ := congrArg Label.type said
    refine ⟨node, reached, name_of_reach? tidy below reached, details, ?_⟩
    intro type given named
    have kept : FieldType.named? f.type = some type := named?_eq_some.mpr ⟨given, named⟩
    rw [typed, composeType, kept]
    rfl
  · intro node below
    obtain ⟨path, nonempty, reached⟩ := tidy.exists_path below
    have known : ((ofFields fields default).label? path).isSome := by
      rw [label?, reached]
      rfl
    rw [label?_ofFields distinct default nonempty, Option.isSome_map] at known
    obtain ⟨f, member, start⟩ := labelOf?_isSome.mp known
    exact ⟨f, member, path, nonempty, start, reached⟩
  · exact fun node under => (tidy.under under).here.distinct
  · intro node under
    rcases Relation.reflTransGen_iff_eq_or_transGen.mp under with rfl | below
    · refine ⟨.object, congrArg Label.type (label_ofFields fields default), ?_⟩
      intro blank
      cases blank
    · obtain ⟨path, nonempty, reached⟩ := tidy.exists_path below
      exact typed_of_reach? distinct default nonempty reached

/-- Fields whose containers come after what they hold. -/
def lateContainers : List Field :=
  [{ name := "tags.*.id", type := some .integer, required := true },
   { name := "tags", type := some .array, nullable := true },
   { name := "tags.*", messages := ["One tag."] },
   { name := "owner.name" }]

theorem lossless_lateContainers :
    (lateContainers.map Field.name).Nodup ∧
      Lossless lateContainers .string (ofFields lateContainers .string) :=
  ⟨by decide, ofFields_lossless (by decide) .string⟩

end RouteDocs.Schema.Node
