import RouteDocs.Proofs.Schema.Shown
import RouteDocs.Schema.Infer

/-!
When a value is valid against a schema in the sense of OpenAPI, for schemas that ask for
types, properties and items alone. Nodes that values are inferred to make such schemas, and
nodes of one shape make schemas with the same valid values.
-/

namespace RouteDocs

namespace Value

def mapped (value : Value) : List (Value × Value) :=
  match value.bare with
  | .map entries => entries
  | .view entries => entries
  | _ => []

def listed (value : Value) : List Value :=
  match value.bare with
  | .list items => items
  | .tuple items => items
  | _ => []

/-- The names of the types that a schema may give to a value. Null has none. -/
def openTypes : Value → List String
  | .bool _ => ["boolean"]
  | .int _ => ["integer", "number"]
  | .real _ => ["number"]
  | .text _ => ["string"]
  | .list _ => ["array"]
  | .tuple _ => ["array"]
  | .map _ => ["object"]
  | .view _ => ["object"]
  | _ => []

theorem agrees_iff {entries others : List (Value × Value)} :
    agrees entries others = true ↔ ∀ entry ∈ entries, ∃ other ∈ others,
      entry.1.same other.1 = true ∧ entry.2.same other.2 = true := by
  induction entries with
  | nil => simp [agrees]
  | cons first rest induction =>
      obtain ⟨key, value⟩ := first
      rw [agrees, Bool.and_eq_true, List.any_eq_true, induction, List.forall_mem_cons]
      simp only [Bool.and_eq_true]

theorem same_map_iff {entries others : List (Value × Value)} :
    (Value.map entries).same (.map others) = true ↔
      entries.length = others.length ∧ ∀ entry ∈ entries, ∃ other ∈ others,
        entry.1.same other.1 = true ∧ entry.2.same other.2 = true := by
  simp only [same, bare, Bool.and_eq_true, agrees_iff, beq_iff_eq]

theorem entry_of_same {entries others : List (Value × Value)} {key : String} {value : Value}
    (same : (Value.map entries).same (.map others) = true)
    (member : Schema.entry key value ∈ entries)
    (texts : ∀ other ∈ others, ∃ name, other.1 = .text name) :
    ∃ other, Schema.entry key other ∈ others ∧ value.same other = true := by
  obtain ⟨⟨_, other⟩, found, sameKey, sameValue⟩ := (same_map_iff.mp same).2 _ member
  obtain ⟨name, rfl⟩ := texts _ found
  have equal : key = name := eq_of_beq (same_text key name ▸ sameKey)
  exact ⟨other, equal ▸ found, sameValue⟩

end Value

namespace Schema

open Value (entryOf? lookup? entryOf?_cons entryOf?_nil)

@[simp] theorem entry_inj {key other : String} {value held : Value} :
    entry key value = entry other held ↔ key = other ∧ value = held := by
  simp [entry]

def propertyAt? (key : Value) (schema : Value) : Option Value :=
  match key with
  | .text name => (schema.lookup? "properties").bind (lookup? name)
  | _ => none

/-- The keywords that say which values are valid, and the one that shows an example. -/
def typingKeywords : List String := ["type", "nullable", "properties", "items", "example"]

/-- The schema says nothing else about values. -/
def AsksTypes (schema : Value) : Prop :=
  ∃ entries, schema = .map entries ∧
    ∀ entry ∈ entries, ∃ keyword ∈ typingKeywords, entry.1 = .text keyword

/-- A value is valid if it is of the type that the schema gives, or null where that is allowed;
if each of its entries has a property and is valid against it; and if each of its items is
valid against the schema of the items. -/
inductive Valid : (schema value : Value) → Prop
  | intro {schema value : Value} (asks : AsksTypes schema)
      (nullable : value.bare = .null → schema.lookup? "nullable" = some (.bool true))
      (typed : value.bare ≠ .null →
        ∃ type ∈ value.bare.openTypes, schema.lookup? "type" = some (.text type))
      (known : ∀ entry ∈ value.mapped, (propertyAt? entry.1 schema).isSome)
      (entries : ∀ entry ∈ value.mapped, ∀ property, propertyAt? entry.1 schema = some property →
        Valid property entry.2)
      (listed : value.listed ≠ [] → (schema.lookup? "items").isSome)
      (items : ∀ item ∈ value.listed, ∀ template, schema.lookup? "items" = some template →
        Valid template item) : Valid schema value

/-- A schema that asks for no more than another one has its valid values. -/
theorem Valid.transfer {schema other value : Value} (valid : Valid schema value)
    (asks : AsksTypes other) (nullable : other.lookup? "nullable" = schema.lookup? "nullable")
    (typed : other.lookup? "type" = schema.lookup? "type")
    (entries : ∀ key property, propertyAt? key schema = some property →
      ∃ later, propertyAt? key other = some later ∧ ∀ value, Valid property value → Valid later value)
    (items : ∀ template, schema.lookup? "items" = some template →
      ∃ later, other.lookup? "items" = some later ∧ ∀ value, Valid template value → Valid later value) :
    Valid other value := by
  cases valid with
  | intro _ null type known inside listed within =>
      refine .intro asks (nullable ▸ null) (typed ▸ type) ?_ ?_ ?_ ?_
      · intro entry member
        obtain ⟨property, found⟩ := Option.isSome_iff_exists.mp (known entry member)
        obtain ⟨later, foundLater, _⟩ := entries entry.1 property found
        exact foundLater ▸ rfl
      · intro entry member later foundLater
        obtain ⟨property, found⟩ := Option.isSome_iff_exists.mp (known entry member)
        obtain ⟨next, foundNext, passes⟩ := entries entry.1 property found
        rw [foundLater] at foundNext
        cases foundNext
        exact passes entry.2 (inside entry member property found)
      · intro nonempty
        obtain ⟨template, found⟩ := Option.isSome_iff_exists.mp (listed nonempty)
        obtain ⟨later, foundLater, _⟩ := items template found
        exact foundLater ▸ rfl
      · intro item member later foundLater
        obtain ⟨template, found⟩ :=
          Option.isSome_iff_exists.mp (listed (List.ne_nil_of_mem member))
        obtain ⟨next, foundNext, passes⟩ := items template found
        rw [foundLater] at foundNext
        cases foundNext
        exact passes item (within item member template found)

namespace Node

/-- Nodes that values without resources are inferred to. -/
inductive Sketch : Node → Prop
  | blank (name : Option String) : Sketch { name, details := { nullable := true } }
  | scalar (name : Option String) {type : FieldType} (value : Value)
      (known : type ∈ [FieldType.boolean, .integer, .string]) : Sketch (ofScalar name type value)
  | object (name : Option String) {children : List Node} (titled : Titled children)
      (below : ∀ child ∈ children, Sketch child) : Sketch (ofObject name children)
  | array (name : Option String) {items : Node} (below : Sketch items) :
      Sketch (ofArray name items)

/-! How sketches are shown. -/

theorem toOpenApi_blank (name : Option String) :
    ({ name, details := { nullable := true } } : Node).toOpenApi =
      .map [entry "nullable" (.bool true)] := by
  rw [toOpenApi_eq]
  rfl

theorem toOpenApi_scalar (name : Option String) {type : FieldType} (value : Value)
    (known : type ∈ [FieldType.boolean, .integer, .string]) :
    (ofScalar name type value).toOpenApi =
      .map [entry "type" (.text type.name), entry "example" value] := by
  simp only [List.mem_cons, List.not_mem_nil, or_false] at known
  rcases known with rfl | rfl | rfl <;> rw [toOpenApi_eq] <;> rfl

theorem Sketch.required {node : Node} (sketch : Sketch node) : node.details.required = false := by
  cases sketch <;> rfl

theorem toOpenApi_object (name : Option String) {children : List Node} (titled : Titled children)
    (below : ∀ child ∈ children, Sketch child) :
    (ofObject name children).toOpenApi =
      .map (entry "type" (.text FieldType.object.name) ::
        if children.isEmpty then [] else [entry "properties" (.map (propertiesOf children))]) := by
  have optional : requiredNames children = [] := by
    rw [requiredNames, List.filter_eq_nil_iff.mpr, List.map_nil]
    intro child member
    rw [(below child member).required]
    exact Bool.false_ne_true
  rw [toOpenApi_eq]
  cases children with
  | nil => rfl
  | cons child rest =>
      simp only [ofObject, objectEntries_cons, optional, titled.ofEntries_propertiesOf]
      rfl

theorem toOpenApi_array (name : Option String) (items : Node) :
    (ofArray name items).toOpenApi =
      .map [entry "type" (.text FieldType.array.name), entry "items" items.toOpenApi] := by
  rw [toOpenApi_eq]
  rfl

/-! What the shapes of two nodes have in common. -/

def shapeEntries (node : Node) : Entries :=
  entry "type" (nameValue (node.type.map FieldType.name)) ::
    (shapeProperties (shapesOf node.children) ++ shapeItems node.items)

theorem shape_eq (node : Node) : node.shape = .map (shapeEntries node) := by
  cases node
  rw [shape]
  rfl

theorem mem_shapeEntries {node : Node} {shown : Value × Value} :
    shown ∈ shapeEntries node ↔
      shown = entry "type" (nameValue (node.type.map FieldType.name)) ∨
        (node.children ≠ [] ∧
          shown = entry "properties" (.map (Value.ofEntries (shapesOf node.children)))) ∨
        ∃ items, node.items = some items ∧ shown = entry "items" items.shape := by
  rw [shapeEntries, List.mem_cons, List.mem_append]
  have properties : shown ∈ shapeProperties (shapesOf node.children) ↔ node.children ≠ [] ∧
      shown = entry "properties" (.map (Value.ofEntries (shapesOf node.children))) := by
    cases node.children <;> simp [shapeProperties, shapesOf]
  have items : shown ∈ shapeItems node.items ↔
      ∃ items, node.items = some items ∧ shown = entry "items" items.shape := by
    cases node.items <;> simp [shapeItems]
  rw [properties, items]

theorem shapesOf_eq_map (children : List Node) :
    shapesOf children = children.map fun child => (nameValue child.name, child.shape) := by
  induction children with
  | nil => rfl
  | cons child rest induction => rw [shapesOf, induction, List.map_cons]

theorem eq_of_same_nameValue {name other : Option String}
    (same : (nameValue name).same (nameValue other) = true) : name = other := by
  cases name <;> cases other <;> simp_all [nameValue, Value.same, Value.bare]

section

variable {node other : Node} (same : node.shape.same other.shape = true)

include same

theorem entry_of_same_shape {key : String} {value : Value}
    (member : entry key value ∈ shapeEntries node) :
    ∃ later, entry key later ∈ shapeEntries other ∧ value.same later = true := by
  rw [shape_eq, shape_eq] at same
  apply Value.entry_of_same same member
  intro shown found
  rcases mem_shapeEntries.mp found with rfl | ⟨_, rfl⟩ | ⟨_, _, rfl⟩ <;> exact ⟨_, rfl⟩

theorem type_of_same_shape : node.type.map FieldType.name = other.type.map FieldType.name := by
  obtain ⟨later, found, equal⟩ := entry_of_same_shape same (mem_shapeEntries.mpr (.inl rfl))
  have shown : later = nameValue (other.type.map FieldType.name) := by
    simpa [mem_shapeEntries] using found
  exact eq_of_same_nameValue (shown ▸ equal)

theorem items_of_same_shape {items : Node} (hung : node.items = some items) :
    ∃ template, other.items = some template ∧ items.shape.same template.shape = true := by
  obtain ⟨later, found, equal⟩ :=
    entry_of_same_shape same (mem_shapeEntries.mpr (.inr (.inr ⟨items, hung, rfl⟩)))
  obtain ⟨template, otherHung, rfl⟩ : ∃ template, other.items = some template ∧
      later = template.shape := by
    simpa [mem_shapeEntries] using found
  exact ⟨template, otherHung, equal⟩

theorem child_of_same_shape (titled : Titled node.children) (otherTitled : Titled other.children)
    {child : Node} (member : child ∈ node.children) :
    ∃ later ∈ other.children, later.name = child.name ∧
      child.shape.same later.shape = true := by
  obtain ⟨later, found, equal⟩ := entry_of_same_shape same
    (mem_shapeEntries.mpr (.inr (.inl ⟨List.ne_nil_of_mem member, rfl⟩)))
  obtain ⟨_, rfl⟩ : other.children ≠ [] ∧
      later = .map (Value.ofEntries (shapesOf other.children)) := by
    simpa [mem_shapeEntries] using found
  rw [shapesOf_eq_map, shapesOf_eq_map, titled.ofEntries_map, otherTitled.ofEntries_map] at equal
  obtain ⟨shown, among, sameName, sameShape⟩ :=
    (Value.same_map_iff.mp equal).2 _ (List.mem_map_of_mem member)
  obtain ⟨later, otherMember, rfl⟩ := List.mem_map.mp among
  exact ⟨later, otherMember, (eq_of_same_nameValue sameName).symm, sameShape⟩

end

/-! What a sketch asks of values. -/

section

variable {node : Node}

theorem propertyAt?_of_titled (titled : Titled node.children) (key : String) :
    propertyAt? (.text key) node.toOpenApi = (node.child? (some key)).map toOpenApi := by
  rw [propertyAt?, titled.lookup?_properties, child?]
  split
  · rename_i childless
    rw [List.isEmpty_iff.mp childless]
    rfl
  · exact entryOf?_propertiesOf titled.named key

theorem child?_of_mem (titled : Titled node.children) {child : Node}
    (member : child ∈ node.children) : node.child? child.name = some child :=
  Keys.find?_of_mem titled.distinct member

theorem Sketch.titled (sketch : Sketch node) : Titled node.children := by
  cases sketch with
  | object name titled below => exact titled
  | _ => exact ⟨List.nodup_nil, nofun⟩

theorem Sketch.child (sketch : Sketch node) {child : Node} (member : child ∈ node.children) :
    Sketch child := by
  cases sketch with
  | object name titled below => exact below child member
  | _ => cases member

theorem Sketch.template (sketch : Sketch node) {items : Node} (hung : node.items = some items) :
    Sketch items := by
  cases sketch with
  | array name below =>
      cases hung
      exact below
  | _ => cases hung

theorem Sketch.asks (sketch : Sketch node) : AsksTypes node.toOpenApi := by
  cases sketch with
  | blank name =>
      refine ⟨_, toOpenApi_blank name, ?_⟩
      simp [entry, typingKeywords]
  | scalar name value known =>
      refine ⟨_, toOpenApi_scalar name value known, ?_⟩
      simp [entry, typingKeywords]
  | @object name children titled below =>
      refine ⟨_, toOpenApi_object name titled below, ?_⟩
      cases children <;> simp [entry, typingKeywords]
  | @array name items below =>
      refine ⟨_, toOpenApi_array name items, ?_⟩
      simp [entry, typingKeywords]

theorem Sketch.lookup?_type (sketch : Sketch node) :
    node.toOpenApi.lookup? "type" = (node.type.map FieldType.name).map .text := by
  cases sketch with
  | blank name =>
      rw [toOpenApi_blank]
      simp [lookup?, entryOf?_cons]
  | scalar name value known =>
      rw [toOpenApi_scalar name value known]
      simp [lookup?, entryOf?_cons, ofScalar]
  | object name titled below =>
      rw [toOpenApi_object name titled below]
      simp [lookup?, entryOf?_cons, ofObject]
  | array name below =>
      rw [toOpenApi_array]
      simp [lookup?, entryOf?_cons, ofArray]

theorem Sketch.lookup?_nullable (sketch : Sketch node) :
    node.toOpenApi.lookup? "nullable" =
      if (node.type.map FieldType.name).isNone then some (.bool true) else none := by
  cases sketch with
  | blank name =>
      rw [toOpenApi_blank]
      simp [lookup?, entryOf?_cons]
  | scalar name value known =>
      rw [toOpenApi_scalar name value known]
      simp [lookup?, entryOf?_cons, ofScalar]
  | @object name children titled below =>
      rw [toOpenApi_object name titled below]
      cases children <;> simp [lookup?, entryOf?_cons, ofObject]
  | array name below =>
      rw [toOpenApi_array]
      simp [lookup?, entryOf?_cons, ofArray]

theorem Sketch.lookup?_items (sketch : Sketch node) :
    node.toOpenApi.lookup? "items" = node.items.map toOpenApi := by
  rw [Node.lookup?_items]
  cases sketch with
  | scalar name value known =>
      simp only [List.mem_cons, List.not_mem_nil, or_false] at known
      rcases known with rfl | rfl | rfl <;> rfl
  | _ => rfl

end

/-! Sketches of one shape. -/

section

variable {node other : Node} (sketch : Sketch node) (otherSketch : Sketch other)
  (same : node.shape.same other.shape = true)

include sketch otherSketch same

theorem valid_of_valid_below
    (children : ∀ child ∈ node.children, ∀ later, Sketch later →
      child.shape.same later.shape = true →
      ∀ value, Valid child.toOpenApi value → Valid later.toOpenApi value)
    (items : ∀ items, node.items = some items → ∀ later, Sketch later →
      items.shape.same later.shape = true →
      ∀ value, Valid items.toOpenApi value → Valid later.toOpenApi value)
    {value : Value} (valid : Valid node.toOpenApi value) : Valid other.toOpenApi value := by
  have type := type_of_same_shape same
  refine valid.transfer otherSketch.asks ?_ ?_ ?_ ?_
  · rw [otherSketch.lookup?_nullable, sketch.lookup?_nullable, type]
  · rw [otherSketch.lookup?_type, sketch.lookup?_type, type]
  · intro key property found
    cases key with
    | text key =>
        rw [propertyAt?_of_titled sketch.titled] at found
        obtain ⟨child, named, rfl⟩ := Option.map_eq_some_iff.mp found
        have member : child ∈ node.children := List.mem_of_find?_eq_some named
        have name : child.name = some key := by simpa using List.find?_some named
        obtain ⟨later, among, sameName, sameShape⟩ :=
          child_of_same_shape same sketch.titled otherSketch.titled member
        refine ⟨later.toOpenApi, ?_, children child member later (otherSketch.child among) sameShape⟩
        rw [propertyAt?_of_titled otherSketch.titled, ← name, ← sameName,
          child?_of_mem otherSketch.titled among]
        rfl
    | _ => cases found
  · intro template found
    rw [sketch.lookup?_items] at found
    obtain ⟨below, hung, rfl⟩ := Option.map_eq_some_iff.mp found
    obtain ⟨later, otherHung, sameShape⟩ := items_of_same_shape same hung
    refine ⟨later.toOpenApi, ?_, items below hung later (otherSketch.template otherHung) sameShape⟩
    rw [otherSketch.lookup?_items, otherHung]
    rfl

end

/-- Schemas of one shape have the same valid values. -/
theorem valid_of_same_shape {node : Node} (sketch : Sketch node) {other : Node}
    (otherSketch : Sketch other) (same : node.shape.same other.shape = true) {value : Value}
    (valid : Valid node.toOpenApi value) : Valid other.toOpenApi value := by
  induction sketch generalizing other value with
  | blank name =>
      exact valid_of_valid_below (.blank name) otherSketch same nofun nofun valid
  | scalar name sample known =>
      exact valid_of_valid_below (.scalar name sample known) otherSketch same nofun nofun valid
  | object name titled below induction =>
      refine valid_of_valid_below (.object name titled below) otherSketch same ?_ nofun valid
      intro child member later laterSketch sameShape value valid
      exact induction child member laterSketch sameShape valid
  | array name below induction =>
      refine valid_of_valid_below (.array name below) otherSketch same nofun ?_ valid
      intro items hung later laterSketch sameShape value valid
      cases hung
      exact induction laterSketch sameShape valid

end Node
end Schema
end RouteDocs
