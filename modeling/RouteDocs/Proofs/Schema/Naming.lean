import RouteDocs.Proofs.Outcome
import RouteDocs.Proofs.Schema.Validity

/-!
Names in the schema of a sample. Children are named by the texts of their keys. Keys that differ may
have one text; then two children have one name, and one property is shown for both.
-/

namespace RouteDocs.Schema

open Relation (ReflTransGen)
open Value (ofEntries lookup?)

/-! Places of a value. -/

/-- A value inside another one, with the text of its key if it is under one. -/
structure Place where
  name : Option String
  value : Value

mutual

/-- The places that a schema is inferred from, in their order: every entry of a mapping, and the
first item of a sequence. -/
def places (name : Option String) : Value → List Place
  | .map entries => ⟨name, .map entries⟩ :: placesIn entries
  | .view entries => ⟨name, .view entries⟩ :: placesIn entries
  | .list items => ⟨name, .list items⟩ :: placesFirst items
  | .tuple items => ⟨name, .tuple items⟩ :: placesFirst items
  | .range start stop =>
      ⟨name, .range start stop⟩ :: if start < stop then [⟨none, .int start⟩] else []
  | .kept _ value => places name value
  | value => [⟨name, value⟩]

def placesFirst : List Value → List Place
  | [] => []
  | first :: _ => places none first

def placesIn : List (Value × Value) → List Place
  | [] => []
  | (key, value) :: rest => places (some key.display) value ++ placesIn rest

end

def keysOf (entries : List (Value × Value)) : List String :=
  entries.map fun entry => entry.1.display

def Place.keys (place : Place) : List String :=
  keysOf place.value.mapped

/-- No mapping has two keys of one text. -/
def Apart (places : List Place) : Prop :=
  ∀ place ∈ places, place.keys.Nodup

instance (places : List Place) : Decidable (Apart places) :=
  inferInstanceAs (Decidable (∀ place ∈ places, _))

theorem apart_cons {place : Place} {rest : List Place} :
    Apart (place :: rest) ↔ place.keys.Nodup ∧ Apart rest :=
  List.forall_mem_cons

theorem apart_append {front back : List Place} :
    Apart (front ++ back) ↔ Apart front ∧ Apart back :=
  List.forall_mem_append

theorem apart_singleton {place : Place} (keyless : place.value.mapped = []) : Apart [place] := by
  intro other member
  rw [List.mem_singleton.mp member, Place.keys, keyless]
  exact List.nodup_nil

/-! Properties of a schema, one for each entry of a mapping. -/

def propertiesIn (schema : Value) : Entries :=
  match schema.lookup? "properties" with
  | some (.map properties) => properties
  | _ => []

mutual

/-- Each mapping has a property for each entry, under the text of its key and in its order. -/
def OneEach : (value schema : Value) → Prop
  | .map entries, schema => OneEachEntry entries (propertiesIn schema)
  | .view entries, schema => OneEachEntry entries (propertiesIn schema)
  | .list items, schema => OneEachFirst items schema
  | .tuple items, schema => OneEachFirst items schema
  | .kept _ value, schema => OneEach value schema
  | _, _ => True

def OneEachFirst : (items : List Value) → (schema : Value) → Prop
  | [], _ => True
  | first :: _, schema =>
      ∃ template, schema.lookup? "items" = some template ∧ OneEach first template

def OneEachEntry : (entries properties : List (Value × Value)) → Prop
  | [], properties => properties = []
  | (key, value) :: rest, properties =>
      ∃ schema later, properties = (.text key.display, schema) :: later ∧ OneEach value schema ∧
        OneEachEntry rest later

end

theorem keys_of_oneEachEntry {entries properties : List (Value × Value)}
    (each : OneEachEntry entries properties) :
    properties.map Prod.fst = (keysOf entries).map .text := by
  induction entries generalizing properties with
  | nil =>
      rw [OneEachEntry] at each
      rw [each]
      rfl
  | cons entry rest induction =>
      obtain ⟨schema, later, rfl, _, others⟩ := each
      rw [List.map_cons, induction others]
      rfl

namespace Node

/-! Nodes whose children have different names. -/

/-- No node of the tree has two children of one name. -/
def UniquelyNamed (node : Node) : Prop :=
  ∀ below, ReflTransGen Holds node below → (below.children.map Node.name).Nodup

theorem uniquelyNamed_iff {node : Node} :
    node.UniquelyNamed ↔
      (node.children.map Node.name).Nodup ∧ ∀ below, Holds node below → below.UniquelyNamed := by
  constructor
  · exact fun unique => ⟨unique node .refl, fun below holds other under =>
      unique other (.head holds under)⟩
  · rintro ⟨here, later⟩ below under
    rcases under.cases_head with rfl | ⟨next, holds, under⟩
    · exact here
    · exact later next holds below under

theorem uniquelyNamed_leaf {node : Node} (children : node.children = [])
    (items : node.items = none) : node.UniquelyNamed := by
  refine uniquelyNamed_iff.mpr ⟨by simp [children], fun below holds => ?_⟩
  cases holds with
  | child member => rw [children] at member; cases member
  | items found => rw [items] at found; cases found

theorem uniquelyNamed_ofObject (name : Option String) (children : List Node) :
    (ofObject name children).UniquelyNamed ↔
      (children.map Node.name).Nodup ∧ ∀ child ∈ children, child.UniquelyNamed := by
  refine uniquelyNamed_iff.trans (and_congr_right fun _ => ⟨?_, ?_⟩)
  · exact fun unique child member => unique child (.child member)
  · intro unique below holds
    cases holds with
    | child member => exact unique below member
    | items found => cases found

theorem uniquelyNamed_ofArray (name : Option String) (items : Node) :
    (ofArray name items).UniquelyNamed ↔ items.UniquelyNamed := by
  refine uniquelyNamed_iff.trans ⟨fun unique => unique.2 items (.items rfl), fun unique => ?_⟩
  refine ⟨List.nodup_nil, fun below holds => ?_⟩
  cases holds with
  | child member => cases member
  | items found => cases found; exact unique

/-! Properties of the children of a mapping. -/

theorem propertiesIn_toOpenApi (node : Node) :
    propertiesIn node.toOpenApi = ofEntries (propertiesOf node.children) := by
  rw [propertiesIn, lookup?_toOpenApi (by decide), entryOf?_properties]
  cases node.children <;> simp [propertiesOf, ofEntries]

section

variable {entries : List (Value × Value)} {children : List Node}
  (names : children.map Node.name = (keysOf entries).map some)

include names

theorem nodup_names_iff : (children.map Node.name).Nodup ↔ (keysOf entries).Nodup := by
  rw [names]
  exact List.nodup_map_iff fun _ _ => Option.some.inj

/-- Properties of one name would have become one. -/
theorem oneEachEntry_ofEntries_iff :
    OneEachEntry entries (ofEntries (propertiesOf children)) ↔
      (keysOf entries).Nodup ∧ OneEachEntry entries (propertiesOf children) := by
  have shown (distinct : (keysOf entries).Nodup) :
      ofEntries (propertiesOf children) = propertiesOf children :=
    (Titled.of_names names distinct).ofEntries_propertiesOf
  constructor
  · intro each
    have apart := Value.pairwise_keys_ofEntries (propertiesOf children)
    rw [keys_of_oneEachEntry each, List.pairwise_map] at apart
    have distinct : (keysOf entries).Nodup :=
      apart.imp fun other => by simpa [Value.same_text] using other
    exact ⟨distinct, shown distinct ▸ each⟩
  · rintro ⟨distinct, each⟩
    rwa [shown distinct]

end

/-! Nodes of values. -/

/-- What the node of a value tells of the keys in the value. -/
structure Faithful (name : Option String) (value : Value) (node : Node) : Prop where
  named : node.name = name
  unique : node.UniquelyNamed ↔ Apart (places name value)
  each : OneEach value node.toOpenApi ↔ Apart (places name value)

theorem faithful_leaf {name : Option String} {value : Value} {node : Node}
    (named : node.name = name) (children : node.children = []) (items : node.items = none)
    (alone : places name value = [⟨name, value⟩]) (keyless : value.mapped = [])
    (each : OneEach value node.toOpenApi) : Faithful name value node := by
  have apart : Apart (places name value) := alone ▸ apart_singleton keyless
  exact ⟨named, iff_of_true (uniquelyNamed_leaf children items) apart, iff_of_true each apart⟩

/-- Resources get nodes of the name that they stand under, below which names are unique. -/
structure Converts (convert : Option String → ClassName → Except Failure Node) : Prop where
  named : ∀ name type node, convert name type = .ok node → node.name = name
  unique : ∀ name type node, convert name type = .ok node → node.UniquelyNamed

/-- What the children of a mapping tell of the keys below it. -/
structure FaithfulEntries (entries : List (Value × Value)) (children : List Node) : Prop where
  names : children.map Node.name = (keysOf entries).map some
  unique : (∀ child ∈ children, child.UniquelyNamed) ↔ Apart (placesIn entries)
  each : OneEachEntry entries (propertiesOf children) ↔ Apart (placesIn entries)

theorem FaithfulEntries.cons {key value : Value} {rest : List (Value × Value)} {child : Node}
    {children : List Node} (first : Faithful (some key.display) value child)
    (others : FaithfulEntries rest children) :
    FaithfulEntries ((key, value) :: rest) (child :: children) where
  names := by
    rw [List.map_cons, first.named, others.names]
    rfl
  unique := by
    rw [List.forall_mem_cons, first.unique, others.unique, placesIn, apart_append]
  each := by
    rw [placesIn, apart_append, ← first.each, ← others.each, propertiesOf, first.named,
      OneEachEntry]
    constructor
    · rintro ⟨schema, later, same, here, below⟩
      cases same
      exact ⟨here, below⟩
    · rintro ⟨here, below⟩
      exact ⟨_, _, rfl, here, below⟩

theorem FaithfulEntries.mapping {entries : List (Value × Value)} {children : List Node}
    (faithful : FaithfulEntries entries children) {name : Option String} {value : Value}
    (mapped : value.mapped = entries)
    (places_ : places name value = ⟨name, value⟩ :: placesIn entries)
    (each : ∀ schema, OneEach value schema ↔ OneEachEntry entries (propertiesIn schema)) :
    Faithful name value (ofObject name children) := by
  have keys : Place.keys ⟨name, value⟩ = keysOf entries := by rw [Place.keys, mapped]
  refine ⟨rfl, ?_, ?_⟩
  · rw [uniquelyNamed_ofObject, nodup_names_iff faithful.names, faithful.unique, places_,
      apart_cons, keys]
  · rw [each, propertiesIn_toOpenApi, ofObject, oneEachEntry_ofEntries_iff faithful.names,
      faithful.each, places_, apart_cons, keys]

/-- What the items of a sequence tell of the keys inside its first one. -/
structure FaithfulFirst (items : List Value) (template : Node) : Prop where
  unique : template.UniquelyNamed ↔ Apart (placesFirst items)
  each : ∀ name, OneEachFirst items (ofArray name template).toOpenApi ↔ Apart (placesFirst items)

theorem Faithful.first {value : Value} {template : Node} (faithful : Faithful none value template)
    (rest : List Value) : FaithfulFirst (value :: rest) template where
  unique := faithful.unique
  each name := by
    have items : (ofArray name template).toOpenApi.lookup? "items" = some template.toOpenApi :=
      lookup?_items
    rw [OneEachFirst, items, placesFirst, ← faithful.each]
    simp

theorem FaithfulFirst.sequence {items : List Value} {template : Node}
    (faithful : FaithfulFirst items template) (name : Option String) {value : Value}
    (keyless : value.mapped = []) (places_ : places name value = ⟨name, value⟩ :: placesFirst items)
    (each : ∀ schema, OneEach value schema ↔ OneEachFirst items schema) :
    Faithful name value (ofArray name template) := by
  have apart : Apart (places name value) ↔ Apart (placesFirst items) := by
    rw [places_, apart_cons, Place.keys, keyless]
    exact and_iff_right List.nodup_nil
  refine ⟨rfl, ?_, ?_⟩
  · rw [uniquelyNamed_ofArray, faithful.unique, apart]
  · rw [each, faithful.each, apart]

section

variable {convert : Option String → ClassName → Except Failure Node}

mutual

theorem faithful_inferWith (converts : Converts convert) : (name : Option String) →
    (value : Value) → {node : Node} → inferWith convert name value = .ok node →
    Faithful name value node
  | name, .bool b, _, rfl => faithful_leaf rfl rfl rfl rfl rfl trivial
  | name, .int n, _, rfl => faithful_leaf rfl rfl rfl rfl rfl trivial
  | name, .real x, _, rfl => faithful_leaf rfl rfl rfl rfl rfl trivial
  | name, .text s, _, rfl => faithful_leaf rfl rfl rfl rfl rfl trivial
  | name, .null, _, rfl => faithful_leaf rfl rfl rfl rfl rfl trivial
  | name, .map entries, _, inferred => by
      obtain ⟨children, below, made⟩ := Outcome.ok_of_bind inferred
      cases made
      exact (faithful_inferEntries converts entries below).mapping rfl rfl fun _ => Iff.rfl
  | name, .view entries, _, inferred => by
      obtain ⟨children, below, made⟩ := Outcome.ok_of_bind inferred
      cases made
      exact (faithful_inferEntries converts entries below).mapping rfl rfl fun _ => Iff.rfl
  | name, .list items, _, inferred => by
      obtain ⟨template, rfl, below⟩ := faithful_inferFirst converts name items inferred
      exact below.sequence name rfl rfl fun _ => Iff.rfl
  | name, .tuple items, _, inferred => by
      obtain ⟨template, rfl, below⟩ := faithful_inferFirst converts name items inferred
      exact below.sequence name rfl rfl fun _ => Iff.rfl
  | name, .range start stop, _, inferred => by
      rw [inferWith] at inferred
      split at inferred
      · rename_i nonempty
        cases inferred
        have apart : Apart (places name (.range start stop)) := by
          rw [places, if_pos nonempty]
          exact apart_cons.mpr ⟨List.nodup_nil, apart_singleton rfl⟩
        have unique := (uniquelyNamed_ofArray name (ofScalar none .integer (.int start))).mpr
          (uniquelyNamed_leaf rfl rfl)
        exact ⟨rfl, iff_of_true unique apart, iff_of_true trivial apart⟩
      · cases inferred
  | name, .rendering type, node, inferred =>
      ⟨converts.named name type node inferred,
        iff_of_true (converts.unique name type node inferred) (apart_singleton rfl),
        iff_of_true trivial (apart_singleton rfl)⟩
  | name, .kept _ value, _, inferred =>
      let inside := faithful_inferWith converts name value inferred
      ⟨inside.named, inside.unique, inside.each⟩
  | name, .bytes isBuffer octets, _, inferred => nomatch inferred
  | name, .set items, _, inferred => nomatch inferred
  | name, .date d, _, inferred => nomatch inferred
  | name, .moment m, _, inferred => nomatch inferred
  | name, .object typeName, _, inferred => nomatch inferred

theorem faithful_inferFirst (converts : Converts convert) : (name : Option String) →
    (items : List Value) → {node : Node} → inferFirst convert name items = .ok node →
    ∃ template, node = ofArray name template ∧ FaithfulFirst items template
  | name, [], _, inferred => nomatch inferred
  | name, first :: rest, _, inferred => by
      obtain ⟨template, below, made⟩ := Outcome.ok_of_bind inferred
      cases made
      exact ⟨template, rfl, (faithful_inferWith converts none first below).first rest⟩

theorem faithful_inferEntries (converts : Converts convert) : (entries : List (Value × Value)) →
    {children : List Node} → inferEntries convert entries = .ok children →
    FaithfulEntries entries children
  | [], _, rfl => ⟨rfl, iff_of_true nofun nofun, iff_of_true rfl nofun⟩
  | (key, value) :: rest, _, inferred => by
      obtain ⟨child, first, inferred⟩ := Outcome.ok_of_bind inferred
      obtain ⟨children, others, made⟩ := Outcome.ok_of_bind inferred
      cases made
      exact .cons (faithful_inferWith converts (some key.display) value first)
        (faithful_inferEntries converts rest others)

end

end

/-- Children have different names, and each entry has its property, exactly if no mapping that is
entered has two keys of one text. -/
theorem ofValue_uniquelyNamed_iff {name : Option String} {value : Value} {node : Node}
    (inferred : ofValue name value = .ok node) :
    (node.UniquelyNamed ↔ Apart (places name value)) ∧
      (OneEach value node.toOpenApi ↔ Apart (places name value)) :=
  have refusing : Converts fun name type => .error (.unsupportedValue name (.rendering type)) :=
    ⟨nofun, nofun⟩
  have faithful := faithful_inferWith refusing name value inferred
  ⟨faithful.unique, faithful.each⟩

/-- Keys of several kinds, with a text for each. -/
def ratings : Value :=
  .map [
    (.text "title", .text "Dune"),
    (.int 1, .list [.map [(.null, .bool true), (.text "by", .int 7)], .text "later"]),
    (.bool false, .map [])]

theorem uniquelyNamed_ratings : ∃ node, ofValue none ratings = .ok node ∧ node.UniquelyNamed ∧
    OneEach ratings node.toOpenApi := by
  have apart : Apart (places none ratings) := by decide +kernel
  have names := @ofValue_uniquelyNamed_iff none ratings _ rfl
  exact ⟨_, rfl, names.1.mpr apart, names.2.mpr apart⟩

/-- Two keys with one text. -/
def numbered : Value := .map [(.int 1, .text "a"), (.text "1", .text "b")]

theorem numbered_sameNames : Value.same (.int 1) (.text "1") = false ∧
    ∃ node, ofValue none numbered = .ok node ∧ ¬ node.UniquelyNamed ∧
      ¬ OneEach numbered node.toOpenApi := by
  refine ⟨by decide +kernel, _, rfl, fun unique => ?_, fun each => ?_⟩
  · exact absurd (uniquelyNamed_iff.mp unique).1 (by decide)
  · -- one property is left, that of the second entry
    have keys := congrArg List.length (keys_of_oneEachEntry each)
    exact absurd keys (by decide +kernel)

end Node
end RouteDocs.Schema
