import RouteDocs.Proofs.Rule.Written
import RouteDocs.Proofs.Schema.Visible

/-!
The types that a rendered schema tells, against what it shows below. Items are shown of arrays
only. Properties are shown of whatever has named children, so that a place with children has to
be an object for the two to agree.
-/

namespace RouteDocs.Schema

open Value (lookup?)
open Relation (ReflTransGen)

/-- A schema, one of its properties or its items, and so on. -/
inductive Level (schema : Value) : Value → Prop
  | here : Level schema schema
  | property {outer : Value} {properties : Entries} {entry : Value × Value}
      (level : Level schema outer) (found : outer.lookup? "properties" = some (.map properties))
      (member : entry ∈ properties) : Level schema entry.2
  | items {outer items : Value} (level : Level schema outer)
      (found : outer.lookup? "items" = some items) : Level schema items

def tells (type : FieldType) (schema : Value) : Prop :=
  schema.lookup? "type" = some (.text type.name)

/-- A schema has properties and required names only as an object, and items exactly as an
array. -/
structure Consistent (schema : Value) : Prop where
  properties : (schema.lookup? "properties").isSome → tells .object schema
  required : (schema.lookup? "required").isSome → tells .object schema
  items : (schema.lookup? "items").isSome ↔ tells .array schema
  apart : ¬ ((schema.lookup? "properties").isSome ∧ (schema.lookup? "items").isSome)

theorem consistent_nil : Consistent (.map []) :=
  ⟨nofun, nofun, ⟨nofun, nofun⟩, fun both => nomatch both.1⟩

namespace Node

variable {node : Node}

theorem shownType_eq_object {type : FieldType} (known : type ∈ FieldType.known) :
    shownType type = FieldType.object.name ↔ type = .object := by
  revert type
  decide

theorem shownType_eq_array {type : FieldType} (known : type ∈ FieldType.known) :
    shownType type = FieldType.array.name ↔ type = .array := by
  revert type
  decide

theorem tells_iff {type other : FieldType} (typed : node.type = some type) :
    tells other node.toOpenApi ↔ shownType type = other.name := by
  rw [tells, lookup?_type typed, Option.some.injEq, Value.text.injEq]

theorem consistent_toOpenApi_iff (tidy : Tidy node) {type : FieldType}
    (typed : node.type = some type) (known : type ∈ FieldType.known) :
    Consistent node.toOpenApi ↔ (node.children ≠ [] → type = .object) := by
  have object : tells .object node.toOpenApi ↔ type = .object :=
    (tells_iff typed).trans (shownType_eq_object known)
  have array : tells .array node.toOpenApi ↔ type = .array :=
    (tells_iff typed).trans (shownType_eq_array known)
  have properties : (node.toOpenApi.lookup? "properties").isSome ↔ node.children ≠ [] := by
    rw [lookup?_properties tidy]
    cases node.children <;> simp
  have items : (node.toOpenApi.lookup? "items").isSome ↔ type = .array := by
    rw [lookup?_items, typed]
    by_cases same : type = .array <;> simp [same]
  constructor
  · intro consistent parent
    exact object.mp (consistent.properties (properties.mpr parent))
  · intro fits
    refine ⟨fun shown => object.mpr (fits (properties.mp shown)), fun shown => ?_,
      items.trans array.symm, fun both => ?_⟩
    · apply object.mpr
      apply fits
      intro childless
      rw [lookup?_required, childless] at shown
      cases shown
    · have container := fits (properties.mp both.1)
      rw [container] at items
      cases items.mp both.2

/-! The levels of a rendered tree are the nodes that are shown. -/

theorem at?_of_child (tidy : Tidy node) {child : Node} (member : child ∈ node.children) :
    ∃ segment, segment ≠ wildcard ∧ node.at? segment = some child := by
  obtain ⟨segment, named, name⟩ := tidy.here.named child member
  refine ⟨segment, named, ?_⟩
  rw [at?, if_neg named, child?, ← name]
  exact Keys.find?_of_mem tidy.here.distinct member

theorem shows_concat {path : List String} {segment : String} {below : Node}
    (shows : node.Shows path) (reached : node.reach? path = some below)
    (array : segment = wildcard → below.type = some .array) : node.Shows (path ++ [segment]) := by
  induction path generalizing node with
  | nil =>
      cases reached
      exact ⟨array, fun _ _ => trivial⟩
  | cons first rest induction =>
      refine ⟨shows.1, fun next found => ?_⟩
      rw [reach?_cons, found] at reached
      exact induction (shows.2 next found) reached

theorem shown_of_level {schema : Value} (tidy : Tidy node) (level : Level node.toOpenApi schema) :
    (∃ path below, node.reach? path = some below ∧ node.Shows path ∧ schema = below.toOpenApi) ∨
      schema = .map [] := by
  induction level with
  | here => exact .inl ⟨[], node, rfl, trivial, rfl⟩
  | @property outer properties entry _ found member induction =>
      rcases induction with ⟨path, below, reached, shows, rfl⟩ | rfl
      · have under := tidy.under (under_of_reach? reached)
        rw [lookup?_properties under] at found
        split at found
        · cases found
        · cases found
          rw [propertiesOf_eq_map] at member
          obtain ⟨child, among, rfl⟩ := List.mem_map.mp member
          obtain ⟨segment, named, next⟩ := at?_of_child under among
          refine .inl ⟨path ++ [segment], child, ?_, ?_, rfl⟩
          · rw [reach?_append, reached, Option.bind_some, reach?_cons, next]
            rfl
          · exact shows_concat shows reached fun wild => (named wild).elim
      · cases found
  | @items outer items _ found induction =>
      rcases induction with ⟨path, below, reached, shows, rfl⟩ | rfl
      · rw [lookup?_items] at found
        split at found
        · rename_i array
          cases found
          cases hung : below.items with
          | none => exact .inr rfl
          | some template =>
              refine .inl ⟨path ++ [wildcard], template, ?_, ?_, rfl⟩
              · rw [reach?_append, reached, Option.bind_some, reach?_cons, at?, if_pos rfl, hung]
                rfl
              · exact shows_concat shows reached fun _ => array
        · cases found
      · cases found

theorem level_of_shownAt? {schema outer inner : Value} (level : Level schema outer)
    {segment : String} (shown : shownAt? segment outer = some inner) : Level schema inner := by
  rw [shownAt?] at shown
  split at shown
  · exact .items level shown
  · obtain ⟨properties, found, shown⟩ := Option.bind_eq_some_iff.mp shown
    cases properties with
    | map entries =>
        obtain ⟨entry, first, rfl⟩ := Option.map_eq_some_iff.mp shown
        exact .property level found (List.mem_of_find?_eq_some first)
    | _ => cases shown

theorem level_of_shown? {schema outer inner : Value} (level : Level schema outer)
    {path : List String} (shown : shown? path outer = some inner) : Level schema inner := by
  induction path generalizing outer with
  | nil =>
      cases shown
      exact level
  | cons segment rest induction =>
      obtain ⟨next, here, shown⟩ := Option.bind_eq_some_iff.mp shown
      exact induction (level_of_shownAt? level here) shown

/-! Places in the tree of fields. -/

theorem known_led? {fields : List Field} {path : List String} :
    Rule.Known (led? fields path) := by
  intro type led
  obtain ⟨f, _, through⟩ := List.exists_of_findSome?_eq_some led
  obtain ⟨next, _, rfl⟩ := typeThrough?_eq_some.mp through
  rw [holderType]
  split <;> decide

theorem known_typeAt? {fields : List Field} (known : ∀ f ∈ fields, Rule.Known f.type)
    (path : List String) : Rule.Known (typeAt? fields path) := by
  have declared : Rule.Known ((declared? fields path).bind Field.type) := by
    intro type given
    obtain ⟨f, found, given⟩ := Option.bind_eq_some_iff.mp given
    exact known f (List.mem_of_find?_eq_some found) type given
  intro type typed
  rw [typeAt?, composeType, Option.or_eq_some_iff, Option.or_eq_some_iff] at typed
  rcases typed with (named | ⟨_, led⟩) | ⟨_, given⟩
  · exact declared type (named?_eq_some.mp named).1
  · exact known_led? type led
  · exact declared type given

theorem children_iff {fields : List Field} (distinct : (fields.map Field.name).Nodup)
    {default : FieldType} {path : List String}
    (reached : (ofFields fields default).reach? path = some node) :
    node.children ≠ [] ↔
      ∃ f ∈ fields, ∃ segment, segment ≠ wildcard ∧ path ++ [segment] <+: segments f.name := by
  have next (segment : String) : (node.at? segment).isSome ↔
      ∃ f ∈ fields, path ++ [segment] <+: segments f.name := by
    rw [← reach?_isSome distinct default (by simp), reach?_append, reached,
      Option.bind_some, reach?_cons]
    cases node.at? segment <;> rfl
  constructor
  · intro parent
    obtain ⟨child, rest, children⟩ := List.exists_cons_of_ne_nil parent
    have tidy := (tidy_ofFields fields default).under (under_of_reach? reached)
    have among : child ∈ node.children := children ▸ List.mem_cons_self
    obtain ⟨segment, named, found⟩ := at?_of_child tidy among
    obtain ⟨f, member, start⟩ := (next segment).mp (by simp [found])
    exact ⟨f, member, segment, named, start⟩
  · rintro ⟨f, member, segment, named, start⟩ childless
    have found := (next segment).mpr ⟨f, member, start⟩
    rw [at?, if_neg named, child?, childless] at found
    cases found

theorem consistent_iff_of_reach? {fields : List Field}
    (distinct : (fields.map Field.name).Nodup) (known : ∀ f ∈ fields, Rule.Known f.type)
    {path : List String} (below : path ≠ [])
    (reached : (ofFields fields .string).reach? path = some node) :
    Consistent node.toOpenApi ↔
      (node.children ≠ [] → (typeAt? fields path).getD .string = .object) := by
  have tidy := (tidy_ofFields fields .string).under (under_of_reach? reached)
  apply consistent_toOpenApi_iff tidy (type_of_reach? distinct below reached)
  cases typed : typeAt? fields path with
  | none => decide
  | some type => exact known_typeAt? known path type typed

/-- What a visible place with named children is, is an object. -/
def Fits (fields : List Field) : Prop :=
  ∀ f ∈ fields, ∀ front segment, front ≠ [] → segment ≠ wildcard →
    front ++ [segment] <+: segments f.name → Visible fields front →
      typeAt? fields front = some .object

instance (fields : List Field) : Decidable (Fits fields) :=
  decidable_of_iff
    (∀ f ∈ fields, ∀ front ∈ (segments f.name).inits, ∀ segment ∈ segments f.name,
      front ≠ [] → segment ≠ wildcard → front ++ [segment] <+: segments f.name →
        Visible fields front → typeAt? fields front = some .object) <| by
    constructor
    · intro bounded f member front segment below named start
      have begun := (List.prefix_append front [segment]).trans start
      exact bounded f member front ((List.mem_inits _ _).mpr begun) segment
        (start.subset (by simp)) below named start
    · exact fun fits f member front _ segment _ => fits f member front segment

/-- Of fields whose rules are texts, the rendered tree is consistent at every level exactly if
the visible places with named children are objects. -/
theorem levels_consistent_iff {fields : List Field} (distinct : (fields.map Field.name).Nodup)
    (read : ∀ f ∈ fields, Rule.ReadFromText f) :
    (∀ schema, Level (ofFields fields .string).toOpenApi schema → Consistent schema) ↔
      Fits fields := by
  have tidy := tidy_ofFields fields .string
  have consistent {path : List String} (below : path ≠ []) {node : Node}
      (reached : (ofFields fields .string).reach? path = some node) :=
    consistent_iff_of_reach? distinct (fun f member => (read f member).known) below reached
  constructor
  · intro levels f member front segment below named start visible
    have before := (List.prefix_append front [segment]).trans start
    obtain ⟨node, reached⟩ := Option.isSome_iff_exists.mp
      ((reach?_isSome distinct .string below).mpr ⟨f, member, before⟩)
    have shows := (shows_ofFields distinct .string member before).mpr visible
    have level := level_of_shown? .here ((shown?_toOpenApi tidy reached).1 shows)
    have object := (consistent below reached).mp (levels _ level)
      ((children_iff distinct reached).mpr ⟨f, member, segment, named, start⟩)
    cases typed : typeAt? fields front with
    | none =>
        rw [typed] at object
        cases object
    | some type =>
        rw [typed] at object
        exact congrArg some object
  · intro fits schema level
    rcases shown_of_level tidy level with ⟨path, node, reached, shows, rfl⟩ | rfl
    · by_cases below : path = []
      · subst below
        cases reached
        have root : (ofFields fields .string).type = some .object :=
          congrArg Label.type (label_ofFields fields .string)
        exact (consistent_toOpenApi_iff tidy root (by decide)).mpr fun _ => rfl
      · refine (consistent below reached).mpr fun parent => ?_
        obtain ⟨f, member, segment, named, start⟩ := (children_iff distinct reached).mp parent
        have before := (List.prefix_append path [segment]).trans start
        have visible := (shows_ofFields distinct .string member before).mp shows
        rw [fits f member path segment below named start visible]
        rfl
    · exact consistent_nil

/-! An address with rules of its own and with rules for its parts. -/

def addressSetting : Rule.Setting := { sampler := .counting "en_US", now := default }

def fieldsOf (rules : List (String × String)) : List Field :=
  rules.map fun rule => (Rule.read addressSetting rule.1 (.text rule.2) 0).1.field

theorem readFromText_fieldsOf {rules : List (String × String)}
    (succeed : ∀ rule ∈ rules, (Rule.read addressSetting rule.1 (.text rule.2) 0).2 = none) :
    ∀ f ∈ fieldsOf rules, Rule.ReadFromText f := by
  intro f member
  obtain ⟨rule, among, rfl⟩ := List.mem_map.mp member
  exact Rule.readFromText_of_read (.text rule.2) (succeed rule among)

def nullableAddress : List Field :=
  fieldsOf [("address.city", "required|string"), ("address", "nullable"), ("tags.*", "integer")]

theorem readFromText_nullableAddress : ∀ f ∈ nullableAddress, Rule.ReadFromText f :=
  readFromText_fieldsOf (by decide +kernel)

theorem consistent_nullableAddress :
    (nullableAddress.map Field.name).Nodup ∧ (∀ f ∈ nullableAddress, Rule.ReadFromText f) ∧
      ∀ schema, Level (ofFields nullableAddress .string).toOpenApi schema → Consistent schema := by
  have distinct : (nullableAddress.map Field.name).Nodup := by decide +kernel
  have fits : Fits nullableAddress := by decide +kernel
  exact ⟨distinct, readFromText_nullableAddress,
    (levels_consistent_iff distinct readFromText_nullableAddress).mpr fits⟩

def arrayAddress : List Field :=
  fieldsOf [("address", "array"), ("address.city", "string")]

/-- An address that is called an array is shown as an array with properties. -/
theorem not_consistent_arrayAddress :
    (arrayAddress.map Field.name).Nodup ∧ (∀ f ∈ arrayAddress, Rule.ReadFromText f) ∧
      ¬ ∀ schema, Level (ofFields arrayAddress .string).toOpenApi schema → Consistent schema := by
  refine ⟨by decide +kernel, readFromText_fieldsOf (by decide +kernel), fun levels => ?_⟩
  have both : (shown? ["address"] (ofFields arrayAddress .string).toOpenApi).any (fun schema =>
      (schema.lookup? "properties").isSome && (schema.lookup? "items").isSome) = true := by
    decide +kernel
  obtain ⟨schema, shown, both⟩ := (Option.any_eq_true _ _).mp both
  exact (levels schema (level_of_shown? .here shown)).apart (Bool.and_eq_true_iff.mp both)

end Node
end RouteDocs.Schema
