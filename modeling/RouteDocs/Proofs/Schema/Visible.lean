import RouteDocs.Proofs.Schema.Shown

/-!
Which fields can be seen in the rendered tree. The items of a place are shown if the place is
an array, by its own field or by the first field that leads through it; the root never is one.
-/

namespace RouteDocs.Schema.Node

/-- The type that the fields give to a place below the root. -/
def typeAt? (fields : List Field) (path : List String) : Option FieldType :=
  composeType ((declared? fields path).bind Field.type) (led? fields path)

/-- Each wildcard of the path stands for the items of an array below the root. -/
def Visible (fields : List Field) (path : List String) : Prop :=
  ∀ front, front ++ [wildcard] <+: path → front ≠ [] ∧ typeAt? fields front = some .array

instance (fields : List Field) (path : List String) : Decidable (Visible fields path) :=
  decidable_of_iff
    (∀ front ∈ path.inits, front ++ [wildcard] <+: path →
      front ≠ [] ∧ typeAt? fields front = some .array) <| by
    constructor
    · intro bounded front start
      have begun : front <+: path := (List.prefix_append front [wildcard]).trans start
      exact bounded front ((List.mem_inits _ _).mpr begun) start
    · exact fun visible front _ start => visible front start

theorem type_of_labelOf? {fields : List Field} {path : List String} {known : Label}
    (labelled : labelOf? fields path = some known) : known.type = typeAt? fields path := by
  rw [labelOf?] at labelled
  rw [typeAt?]
  cases declared : declared? fields path with
  | some f =>
      rw [declared] at labelled
      cases labelled
      rfl
  | none =>
      rw [declared] at labelled
      cases led : led? fields path with
      | none =>
          rw [led] at labelled
          cases labelled
      | some type =>
          rw [led] at labelled
          cases labelled
          rfl

section

variable {fields : List Field} (distinct : (fields.map Field.name).Nodup) {default : FieldType}
  {path : List String}

include distinct

theorem type_of_reach? (below : path ≠ []) {node : Node}
    (reached : (ofFields fields default).reach? path = some node) :
    node.type = some ((typeAt? fields path).getD default) := by
  have labelled := label?_ofFields distinct default below
  rw [label?, reached, Option.map_some] at labelled
  obtain ⟨known, composed, said⟩ := Option.map_eq_some_iff.mp labelled.symm
  have typed : some (known.type.getD default) = node.type := congrArg Label.type said
  rw [← typed, type_of_labelOf? composed]

variable (default) in
theorem reach?_isSome (below : path ≠ []) :
    ((ofFields fields default).reach? path).isSome ↔ ∃ f ∈ fields, path <+: segments f.name := by
  have labelled := label?_ofFields distinct default below
  rw [label?] at labelled
  rw [← labelOf?_isSome, ← Option.isSome_map (f := label), labelled, Option.isSome_map]

end

/-- A place that a field leads through has a type, which none is assumed for. -/
theorem typeAt?_isSome {fields : List Field} {path : List String} {f : Field}
    (member : f ∈ fields) (start : path <+: segments f.name) (longer : path ≠ segments f.name) :
    (typeAt? fields path).isSome := by
  have led : (led? fields path).isSome := by
    rw [led?, List.isSome_findSome?, List.any_eq_true]
    exact ⟨f, member, typeThrough?_isSome.mpr ⟨start, longer⟩⟩
  rw [typeAt?, composeType]
  simp [led]

theorem ne_of_append_prefix {front path : List String} {segment : String}
    (start : front ++ [segment] <+: path) : front <+: path ∧ front ≠ path := by
  refine ⟨(List.prefix_append front [segment]).trans start, ?_⟩
  rintro rfl
  have shorter := start.length_le
  rw [List.length_append, List.length_singleton] at shorter
  omega

theorem shows_ofFields {fields : List Field} (distinct : (fields.map Field.name).Nodup)
    (default : FieldType) {f : Field} (member : f ∈ fields) {path : List String}
    (start : path <+: segments f.name) :
    (ofFields fields default).Shows path ↔ Visible fields path := by
  have root : (ofFields fields default).type = some .object :=
    congrArg Label.type (label_ofFields fields default)
  rw [shows_iff]
  constructor
  · intro arrays front begun
    obtain ⟨before, longer⟩ := ne_of_append_prefix (begun.trans start)
    have nonempty : front ≠ [] := by
      rintro rfl
      have array := arrays [] _ begun rfl
      rw [root] at array
      cases array
    obtain ⟨holder, reached⟩ := Option.isSome_iff_exists.mp
      ((reach?_isSome distinct default nonempty).mpr ⟨f, member, before⟩)
    have array := arrays front holder begun reached
    rw [type_of_reach? distinct nonempty reached] at array
    obtain ⟨type, typed⟩ := Option.isSome_iff_exists.mp (typeAt?_isSome member before longer)
    rw [typed] at array ⊢
    exact ⟨nonempty, array⟩
  · intro visible front holder begun reached
    obtain ⟨nonempty, array⟩ := visible front begun
    rw [type_of_reach? distinct nonempty reached, array]
    rfl

/-- The field of a visible path is shown at its path, and one of another path is not shown
at all. -/
theorem shown?_ofFields {fields : List Field} (distinct : (fields.map Field.name).Nodup)
    (default : FieldType) {f : Field} (member : f ∈ fields) :
    (Visible fields (segments f.name) → ∃ node,
      (ofFields fields default).reach? (segments f.name) = some node ∧
        shown? (segments f.name) (ofFields fields default).toOpenApi = some node.toOpenApi) ∧
      (¬ Visible fields (segments f.name) →
        shown? (segments f.name) (ofFields fields default).toOpenApi = none) := by
  have below := segments_ne_nil f.name
  obtain ⟨node, reached⟩ := Option.isSome_iff_exists.mp
    ((reach?_isSome distinct default below).mpr ⟨f, member, List.prefix_rfl⟩)
  obtain ⟨shown, hidden⟩ := shown?_toOpenApi (tidy_ofFields fields default) reached
  rw [shows_ofFields distinct default member List.prefix_rfl] at shown hidden
  exact ⟨fun visible => ⟨node, reached, shown visible⟩, hidden⟩

end RouteDocs.Schema.Node
