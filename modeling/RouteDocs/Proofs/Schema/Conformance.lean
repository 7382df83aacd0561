import RouteDocs.Field.Example
import RouteDocs.Proofs.Outcome
import RouteDocs.Proofs.Schema.Validity

/-!
Samples are valid against their own schemas. The items of a list after the first one are not
looked at when its schema is inferred; they are valid because their own schemas have the same
shape as that of the first one.
-/

namespace RouteDocs.Schema

open Node (ofValue ofScalar ofArray ofObject Sketch Titled inferWith inferEntries inferFirst)
open Value (lookup? entryOf?)

/-- What is inferred from the two values has one shape. -/
def SameShape (value other : Value) : Prop :=
  ∀ node later, ofValue none value = .ok node → ofValue none other = .ok later →
    node.shape.same later.shape = true

/-- The keys are texts, and no two are the same. -/
structure TextKeys (entries : List (Value × Value)) : Prop where
  distinct : (entries.map Prod.fst).Nodup
  texts : ∀ entry ∈ entries, ∃ key, entry.1 = .text key

/-- A mapping with the given entries, which may be one that can only be read. -/
inductive Mapping (entries : List (Value × Value)) : Value → Prop
  | map : Mapping entries (.map entries)
  | view : Mapping entries (.view entries)

/-- Values made of null, truth values, integers, texts, mappings from texts, and lists of one or
more items whose schemas have one shape. -/
inductive Sampled : Value → Prop
  | null : Sampled .null
  | bool (b : Bool) : Sampled (.bool b)
  | int (n : Int) : Sampled (.int n)
  | text (s : String) : Sampled (.text s)
  | mapping {entries : List (Value × Value)} {value : Value} (mapping : Mapping entries value)
      (keys : TextKeys entries) (values : ∀ entry ∈ entries, Sampled entry.2) : Sampled value
  | list {items : List Value} (nonempty : items ≠ []) (values : ∀ item ∈ items, Sampled item)
      (alike : ∀ item ∈ items, ∀ other ∈ items, SameShape item other) : Sampled (.list items)
  | kept {value : Value} (mark : Mark) (inside : Sampled value) : Sampled (.kept mark value)

/-! What is inferred from mappings and lists. -/

section

variable {convert : Option String → ClassName → Except Failure Node}
  {entries : List (Value × Value)} {children : List Node}

theorem forall₂_of_inferEntries (inferred : inferEntries convert entries = .ok children) :
    List.Forall₂ (fun entry child => inferWith convert (some entry.1.display) entry.2 = .ok child)
      entries children := by
  induction entries generalizing children with
  | nil =>
      cases inferred
      exact .nil
  | cons entry rest induction =>
      obtain ⟨child, first, inferred⟩ := Outcome.ok_of_bind inferred
      obtain ⟨later, others, inferred⟩ := Outcome.ok_of_bind inferred
      cases inferred
      exact .cons first (induction others)

theorem inferEntries_succeeds
    (each : ∀ entry ∈ entries, ∃ child,
      inferWith convert (some entry.1.display) entry.2 = .ok child) :
    ∃ children, inferEntries convert entries = .ok children := by
  induction entries with
  | nil => exact ⟨[], rfl⟩
  | cons entry rest induction =>
      obtain ⟨child, first⟩ := each entry (by simp)
      obtain ⟨children, others⟩ :=
        induction fun other member => each other (List.mem_cons_of_mem _ member)
      refine ⟨child :: children, ?_⟩
      rw [inferEntries, first, others]
      rfl

end

/-- The children are inferred from the entries, one from each. -/
def InferredFrom (entries : List (Value × Value)) (children : List Node) : Prop :=
  List.Forall₂ (fun entry child => ofValue (some entry.1.display) entry.2 = .ok child)
    entries children

theorem ofValue_mapping {entries : List (Value × Value)} {name : Option String} {value : Value}
    {node : Node} (mapping : Mapping entries value) (inferred : ofValue name value = .ok node) :
    ∃ children, InferredFrom entries children ∧ node = ofObject name children := by
  cases mapping <;>
  · obtain ⟨children, each, made⟩ := Outcome.ok_of_bind inferred
    cases made
    exact ⟨children, forall₂_of_inferEntries each, rfl⟩

theorem ofValue_list {first : Value} {rest : List Value} {name : Option String} {node : Node}
    (inferred : ofValue name (.list (first :: rest)) = .ok node) :
    ∃ template, ofValue none first = .ok template ∧ node = ofArray name template := by
  obtain ⟨template, here, made⟩ := Outcome.ok_of_bind inferred
  cases made
  exact ⟨template, here, rfl⟩

theorem Sampled.infers {value : Value} (sampled : Sampled value) (name : Option String) :
    ∃ node, ofValue name value = .ok node := by
  induction sampled generalizing name with
  | null | bool _ | int _ | text _ => exact ⟨_, rfl⟩
  | mapping mapping keys values induction =>
      obtain ⟨children, inferred⟩ :=
        inferEntries_succeeds fun entry member => induction entry member (some entry.1.display)
      refine ⟨ofObject name children, ?_⟩
      cases mapping <;>
      · rw [ofValue, inferWith, inferred]
        rfl
  | @list items nonempty values alike induction =>
      cases items with
      | nil => exact absurd rfl nonempty
      | cons first rest =>
          obtain ⟨template, inferred⟩ := induction first (by simp) none
          refine ⟨ofArray name template, ?_⟩
          rw [ofValue] at inferred ⊢
          rw [inferWith, inferFirst, inferred]
          rfl
  | kept mark inside induction => exact induction name

/-! The children that are inferred from a mapping. -/

theorem Sampled.name_of_ofValue {value : Value} (sampled : Sampled value) {name : Option String}
    {node : Node} (inferred : ofValue name value = .ok node) : node.name = name := by
  induction sampled with
  | null | bool _ | int _ | text _ =>
      cases inferred
      rfl
  | mapping mapping keys values induction =>
      obtain ⟨children, _, rfl⟩ := ofValue_mapping mapping inferred
      rfl
  | @list items nonempty values alike induction =>
      cases items with
      | nil => exact absurd rfl nonempty
      | cons first rest =>
          obtain ⟨template, _, rfl⟩ := ofValue_list inferred
          rfl
  | kept mark inside induction => exact induction inferred

section

variable {entries : List (Value × Value)} {children : List Node}
  (values : ∀ entry ∈ entries, Sampled entry.2) (from_ : InferredFrom entries children)

include values from_

theorem names_of_inferredFrom :
    children.map Node.name = ((entries.map Prod.fst).map Value.display).map some := by
  induction from_ with
  | nil => rfl
  | cons first _ induction =>
      rw [List.map_cons, List.map_cons, List.map_cons, List.map_cons,
        (values _ (by simp)).name_of_ofValue first,
        induction fun entry member => values entry (List.mem_cons_of_mem _ member)]

theorem titled_of_inferredFrom (keys : TextKeys entries) : Titled children := by
  refine .of_names (names_of_inferredFrom values from_) ?_
  refine keys.distinct.map_on fun key member other otherMember same => ?_
  obtain ⟨entry, among, rfl⟩ := List.mem_map.mp member
  obtain ⟨later, otherAmong, rfl⟩ := List.mem_map.mp otherMember
  obtain ⟨name, text⟩ := keys.texts entry among
  obtain ⟨otherName, otherText⟩ := keys.texts later otherAmong
  rw [text, otherText] at same ⊢
  exact congrArg Value.text same

end

section

variable {entries : List (Value × Value)} {children : List Node}

theorem child_of_entry (from_ : InferredFrom entries children) {entry : Value × Value}
    (member : entry ∈ entries) :
    ∃ child ∈ children, ofValue (some entry.1.display) entry.2 = .ok child := by
  induction from_ with
  | nil => cases member
  | cons first _ induction =>
      rcases List.mem_cons.mp member with rfl | later
      · exact ⟨_, List.mem_cons_self, first⟩
      · obtain ⟨child, among, inferred⟩ := induction later
        exact ⟨child, List.mem_cons_of_mem _ among, inferred⟩

theorem entry_of_child (from_ : InferredFrom entries children) {child : Node}
    (member : child ∈ children) :
    ∃ entry ∈ entries, ofValue (some entry.1.display) entry.2 = .ok child := by
  induction from_ with
  | nil => cases member
  | cons first _ induction =>
      rcases List.mem_cons.mp member with rfl | later
      · exact ⟨_, List.mem_cons_self, first⟩
      · obtain ⟨entry, among, inferred⟩ := induction later
        exact ⟨entry, List.mem_cons_of_mem _ among, inferred⟩

/-- The property of an entry's key is the schema of its value. -/
theorem property_of_entry (values : ∀ entry ∈ entries, Sampled entry.2)
    (from_ : InferredFrom entries children) (keys : TextKeys entries) (name : Option String)
    {entry : Value × Value} (member : entry ∈ entries) :
    ∃ child, ofValue (some entry.1.display) entry.2 = .ok child ∧
      propertyAt? entry.1 (ofObject name children).toOpenApi = some child.toOpenApi := by
  have titled : Titled (ofObject name children).children :=
    titled_of_inferredFrom values from_ keys
  obtain ⟨child, among, inferred⟩ := child_of_entry from_ member
  obtain ⟨key, text⟩ := keys.texts entry member
  have named : child.name = some key := by
    rw [(values entry member).name_of_ofValue inferred, text]
    rfl
  refine ⟨child, inferred, ?_⟩
  rw [text, Node.propertyAt?_of_titled titled, ← named, Node.child?_of_mem titled among]
  rfl

end

/-! Samples and their schemas. -/

theorem Sampled.sketch {value : Value} (sampled : Sampled value) {name : Option String}
    {node : Node} (inferred : ofValue name value = .ok node) : Sketch node := by
  induction sampled generalizing name node with
  | null =>
      cases inferred
      exact .blank name
  | bool b =>
      cases inferred
      exact .scalar name (.bool b) (by simp)
  | int n =>
      cases inferred
      exact .scalar name (.int n) (by simp)
  | text s =>
      cases inferred
      exact .scalar name (.text s) (by simp)
  | mapping mapping keys values induction =>
      obtain ⟨children, from_, rfl⟩ := ofValue_mapping mapping inferred
      refine .object name (titled_of_inferredFrom values from_ keys) fun child member => ?_
      obtain ⟨entry, among, below⟩ := entry_of_child from_ member
      exact induction entry among below
  | @list items nonempty values alike induction =>
      cases items with
      | nil => exact absurd rfl nonempty
      | cons first rest =>
          obtain ⟨template, below, rfl⟩ := ofValue_list inferred
          exact .array name (induction first (by simp) below)
  | kept mark inside induction => exact induction inferred

theorem Mapping.facts {entries : List (Value × Value)} {value : Value}
    (mapping : Mapping entries value) :
    value.bare = value ∧ value ≠ .null ∧ value.openTypes = ["object"] ∧ value.mapped = entries ∧
      value.listed = [] := by
  cases mapping <;> exact ⟨rfl, nofun, rfl, rfl, rfl⟩

theorem valid_ofScalar (name : Option String) {type : FieldType} {value : Value}
    (known : type ∈ [FieldType.boolean, .integer, .string]) (bare : value.bare = value)
    (typed : type.name ∈ value.openTypes) (mapped : value.mapped = [])
    (listed : value.listed = []) : Valid (ofScalar name type value).toOpenApi value := by
  have sketch : Sketch (ofScalar name type value) := .scalar name value known
  refine .intro sketch.asks ?_ ?_ ?_ ?_ ?_ ?_
  · rw [bare]
    rintro rfl
    cases typed
  · rw [bare]
    exact fun _ => ⟨type.name, typed, sketch.lookup?_type⟩
  · rw [mapped]
    exact nofun
  · rw [mapped]
    exact nofun
  · exact fun nonempty => absurd listed nonempty
  · rw [listed]
    exact nofun

theorem Sampled.valid {value : Value} (sampled : Sampled value) {name : Option String}
    {node : Node} (inferred : ofValue name value = .ok node) : Valid node.toOpenApi value := by
  induction sampled generalizing name node with
  | null =>
      have sketch := Sampled.null.sketch inferred
      cases inferred
      exact .intro sketch.asks (fun _ => sketch.lookup?_nullable) nofun nofun nofun nofun nofun
  | bool b =>
      cases inferred
      exact valid_ofScalar name (by decide) rfl (List.mem_singleton.mpr rfl) rfl rfl
  | int n =>
      cases inferred
      exact valid_ofScalar name (by decide) rfl List.mem_cons_self rfl rfl
  | text s =>
      cases inferred
      exact valid_ofScalar name (by decide) rfl (List.mem_singleton.mpr rfl) rfl rfl
  | mapping mapping keys values induction =>
      have sketch := (Sampled.mapping mapping keys values).sketch inferred
      obtain ⟨children, from_, rfl⟩ := ofValue_mapping mapping inferred
      obtain ⟨bare, nonnull, types, mapped, listed⟩ := mapping.facts
      refine .intro sketch.asks ?_ ?_ ?_ ?_ ?_ ?_
      · rw [bare]
        exact fun null => absurd null nonnull
      · rw [bare, types]
        exact fun _ => ⟨"object", by simp, sketch.lookup?_type⟩
      · rw [mapped]
        intro entry member
        obtain ⟨child, _, found⟩ := property_of_entry values from_ keys name member
        exact found ▸ rfl
      · rw [mapped]
        intro entry member property found
        obtain ⟨child, below, shown⟩ := property_of_entry values from_ keys name member
        rw [shown] at found
        cases found
        exact induction entry member below
      · rw [listed]
        exact fun nonempty => absurd rfl nonempty
      · rw [listed]
        exact nofun
  | @list items nonempty values alike induction =>
      have sketch := (Sampled.list nonempty values alike).sketch inferred
      cases items with
      | nil => exact absurd rfl nonempty
      | cons first rest =>
          obtain ⟨template, below, rfl⟩ := ofValue_list inferred
          have items := sketch.lookup?_items
          refine .intro sketch.asks nofun ?_ nofun nofun ?_ ?_
          · intro _
            exact ⟨"array", by simp [Value.bare, Value.openTypes], sketch.lookup?_type⟩
          · intro _
            rw [items]
            rfl
          · intro item member shown found
            rw [items] at found
            cases found
            obtain ⟨own, inferredOwn⟩ := (values item member).infers none
            have same := alike item member first (by simp) own template inferredOwn below
            exact Node.valid_of_same_shape ((values item member).sketch inferredOwn)
              ((values first (by simp)).sketch below) same (induction item member inferredOwn)
  | kept mark inside induction =>
      cases induction inferred with
      | intro asks nullable typed known entries listed items =>
          exact .intro asks nullable typed known entries listed items

/-! Places in a sample and in its schema. -/

/-- A step into a value: to the value under a key, or to the first item. -/
inductive Step where
  | key (name : String)
  | first

namespace Step

def value? : Step → Value → Option Value
  | key name, value => entryOf? name value.mapped
  | first, value => value.listed.head?

/-- The schema that describes what the step leads to. -/
def schema? : Step → Value → Option Value
  | key name, schema => propertyAt? (.text name) schema
  | first, schema => schema.lookup? "items"

end Step

/-- What the steps lead to in a value, without its identity. -/
def valueAt? : List Step → Value → Option Value
  | [], value => some value.bare
  | step :: rest, value => (step.value? value).bind (valueAt? rest)

def schemaAt? : List Step → Value → Option Value
  | [], schema => some schema
  | step :: rest, schema => (step.schema? schema).bind (schemaAt? rest)

def IsScalar : Value → Prop
  | .null | .bool _ | .int _ | .text _ => True
  | _ => False

theorem Sampled.step {value : Value} (sampled : Sampled value) {name : Option String}
    {node : Node} (inferred : ofValue name value = .ok node) {step : Step} {next : Value}
    (found : step.value? value = some next) :
    Sampled next ∧ ∃ key below, ofValue key next = .ok below ∧
      step.schema? node.toOpenApi = some below.toOpenApi := by
  induction sampled generalizing name node with
  | null | bool _ | int _ | text _ => cases step <;> cases found
  | mapping mapping keys values induction =>
      obtain ⟨children, from_, rfl⟩ := ofValue_mapping mapping inferred
      obtain ⟨_, _, _, mapped, listed⟩ := mapping.facts
      cases step with
      | first =>
          rw [Step.value?, listed] at found
          cases found
      | key key =>
          rw [Step.value?, mapped] at found
          obtain ⟨entry, first, rfl⟩ := Option.map_eq_some_iff.mp found
          have member := List.mem_of_find?_eq_some first
          obtain ⟨text, named⟩ := keys.texts entry member
          have same : text = key := by
            have matched := List.find?_some first
            rw [named, Value.same_text] at matched
            exact eq_of_beq matched
          obtain ⟨child, below, shown⟩ := property_of_entry values from_ keys name member
          refine ⟨values entry member, _, child, below, ?_⟩
          rw [Step.schema?, ← same, ← named]
          exact shown
  | @list items nonempty values alike induction =>
      have sketch := (Sampled.list nonempty values alike).sketch inferred
      cases items with
      | nil => exact absurd rfl nonempty
      | cons head rest =>
          obtain ⟨template, below, rfl⟩ := ofValue_list inferred
          cases step with
          | key key => cases found
          | first =>
              cases found
              exact ⟨values _ List.mem_cons_self, none, template, below, sketch.lookup?_items⟩
  | kept mark inside induction =>
      apply induction inferred
      cases step <;> exact found

theorem lookup?_example_ofScalar (name : Option String) {type : FieldType} (value : Value)
    (known : type ∈ [FieldType.boolean, .integer, .string]) :
    (ofScalar name type value).toOpenApi.lookup? "example" = some value := by
  rw [Node.toOpenApi_scalar name value known]
  simp [lookup?, Value.entryOf?_cons]

/-- The example of a scalar is the scalar itself; null is no example. -/
theorem Sampled.example_of_scalar {value : Value} (sampled : Sampled value) {name : Option String}
    {node : Node} (inferred : ofValue name value = .ok node) (scalar : IsScalar value.bare) :
    node.toOpenApi.lookup? "example" = Field.sampleOf value.bare := by
  induction sampled generalizing name node with
  | null =>
      cases inferred
      rw [Node.toOpenApi_blank]
      simp [lookup?, Value.entryOf?_cons, Value.bare, Field.sampleOf]
  | bool b =>
      cases inferred
      exact lookup?_example_ofScalar name (.bool b) (by decide)
  | int n =>
      cases inferred
      exact lookup?_example_ofScalar name (.int n) (by decide)
  | text s =>
      cases inferred
      exact lookup?_example_ofScalar name (.text s) (by decide)
  | mapping mapping keys values induction => cases mapping <;> cases scalar
  | list nonempty values alike induction => cases scalar
  | kept mark inside induction => exact induction inferred scalar

theorem Sampled.example_at {value : Value} (sampled : Sampled value) {name : Option String}
    {node : Node} (inferred : ofValue name value = .ok node) {path : List Step} {leaf : Value}
    (reached : valueAt? path value = some leaf) (scalar : IsScalar leaf) :
    ∃ level, schemaAt? path node.toOpenApi = some level ∧
      level.lookup? "example" = Field.sampleOf leaf := by
  induction path generalizing value name node with
  | nil =>
      cases reached
      exact ⟨node.toOpenApi, rfl, sampled.example_of_scalar inferred scalar⟩
  | cons step rest induction =>
      obtain ⟨next, found, reached⟩ := Option.bind_eq_some_iff.mp reached
      obtain ⟨inside, key, below, inferredBelow, shown⟩ := sampled.step inferred found
      rw [schemaAt?, shown]
      exact induction inside inferredBelow reached

/-- A schema can be inferred from every sample. The sample is valid against it, and each scalar
on the way through first items is the example at its place. -/
theorem sample_conforms {value : Value} (sampled : Sampled value) (name : Option String) :
    ∃ node, ofValue name value = .ok node ∧ Valid node.toOpenApi value ∧
      ∀ path leaf, valueAt? path value = some leaf → IsScalar leaf →
        ∃ level, schemaAt? path node.toOpenApi = some level ∧
          level.lookup? "example" = Field.sampleOf leaf := by
  obtain ⟨node, inferred⟩ := sampled.infers name
  exact ⟨node, inferred, sampled.valid inferred, fun path leaf reached scalar =>
    sampled.example_at inferred reached scalar⟩

instance (value other : Value) : Decidable (SameShape value other) :=
  match first : ofValue none value, second : ofValue none other with
  | .ok node, .ok later => decidable_of_iff (node.shape.same later.shape = true) <| by
      rw [SameShape, first, second]
      simp
  | .ok _, .error _ => .isTrue fun _ _ _ inferred => by rw [second] at inferred; cases inferred
  | .error _, _ => .isTrue fun _ _ inferred => by rw [first] at inferred; cases inferred

/-- Rows that differ in the order of their keys, in their lengths and in their truth values. -/
def table : Value :=
  .list
    [.map [(.text "id", .int 1), (.text "flags", .list [.bool true]), (.text "note", .null)],
     .map [(.text "note", .null), (.text "id", .int 2),
       (.text "flags", .list [.bool false, .bool true])]]

theorem sampled_table : Sampled table := by
  have one : Sampled (.list [.bool true]) :=
    .list (by simp) (List.forall_mem_singleton.mpr (.bool true)) (by decide +kernel)
  have two : Sampled (.list [.bool false, .bool true]) := by
    refine .list (by simp) ?_ (by decide +kernel)
    simp only [List.forall_mem_cons]
    exact ⟨.bool false, .bool true, nofun⟩
  refine .list (by simp) ?_ (by decide +kernel)
  rw [List.forall_mem_cons, List.forall_mem_singleton]
  constructor
  · refine .mapping .map ⟨by simp, by simp⟩ ?_
    simp only [List.forall_mem_cons]
    exact ⟨.int 1, one, .null, nofun⟩
  · refine .mapping .map ⟨by simp, by simp⟩ ?_
    simp only [List.forall_mem_cons]
    exact ⟨.null, .int 2, two, nofun⟩

theorem table_conforms : Sampled table ∧
    ∃ node, ofValue (some "rows") table = .ok node ∧ Valid node.toOpenApi table ∧
      ∀ path leaf, valueAt? path table = some leaf → IsScalar leaf →
        ∃ level, schemaAt? path node.toOpenApi = some level ∧
          level.lookup? "example" = Field.sampleOf leaf :=
  ⟨sampled_table, sample_conforms sampled_table (some "rows")⟩

end RouteDocs.Schema
