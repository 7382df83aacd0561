import RouteDocs.Proofs.Field.Bounds
import RouteDocs.Proofs.Rule.Spelling
import RouteDocs.Proofs.Schema.Shown

/-!
Bounds in a rendered schema. The type of a field tells which keywords state its bounds. The keywords
for numbers can exclude a bound; those for sizes cannot, and allow what the field excludes.
-/

namespace RouteDocs

namespace Bounds

/-- The same bounds, none of which is excluded. -/
def closed (b : Bounds) : Bounds :=
  { b with exclusiveMin := false, exclusiveMax := false }

/-- Without the flags of bounds that are not given. -/
def effective (b : Bounds) : Bounds :=
  { b with
    exclusiveMin := b.exclusiveMin && b.min.isSome
    exclusiveMax := b.exclusiveMax && b.max.isSome }

theorem admits_effective {b : Bounds} {n : Int} : b.effective.Admits n ↔ b.Admits n := by
  have low : b.effective.LowAdmits n ↔ b.LowAdmits n := by
    cases given : b.min <;> simp [LowAdmits, effective, given]
  have high : b.effective.HighAdmits n ↔ b.HighAdmits n := by
    cases given : b.max <;> simp [HighAdmits, effective, given]
  rw [Admits, low, high, Admits]

end Bounds

namespace Schema

open Value (entryOf? lookup? entryOf?_cons entryOf?_append entryOf?_of_keywords)

/-! The bounds that a schema states. -/

def numberAt? (keyword : String) (schema : Value) : Option Number :=
  (schema.lookup? keyword).bind Value.number?

def isTrue : Value → Bool
  | .bool said => said
  | _ => false

def affirms (keyword : String) (schema : Value) : Bool :=
  (schema.lookup? keyword).any isTrue

/-- What bounds are about: numbers themselves, the items of arrays, or the characters of texts. -/
inductive Measure where
  | value
  | items
  | characters
  deriving DecidableEq, Repr

namespace Measure

/-- A field without a type is taken for a text. -/
def ofType? : Option FieldType → Option Measure
  | some .integer => some value
  | some .number => some value
  | some .array => some items
  | some .string => some characters
  | none => some characters
  | _ => none

/-- The bounds by the keywords of a measure. Keywords for sizes include what they name. -/
def stated : Measure → Value → Bounds
  | value, schema =>
      { min := numberAt? "minimum" schema
        max := numberAt? "maximum" schema
        exclusiveMin := affirms "exclusiveMinimum" schema
        exclusiveMax := affirms "exclusiveMaximum" schema }
  | items, schema => { min := numberAt? "minItems" schema, max := numberAt? "maxItems" schema }
  | characters, schema =>
      { min := numberAt? "minLength" schema, max := numberAt? "maxLength" schema }

/-- What can be stated of bounds. -/
def statable : Measure → Bounds → Bounds
  | value, b => b
  | _, b => b.closed

end Measure

/-! Where the keywords stand. -/

def Details.boundKeywords : List String :=
  ["minimum", "exclusiveMinimum", "maximum", "exclusiveMaximum", "minItems", "maxItems",
   "minLength", "maxLength"]

theorem Details.not_mem_of_bound {key : String} (bound : key ∈ boundKeywords) :
    key ∉ plainKeywords ++ ["example", "items", "type", "properties", "required"] := by
  have all : ∀ key ∈ boundKeywords,
      key ∉ plainKeywords ++ ["example", "items", "type", "properties", "required"] := by decide
  exact all key bound

theorem Node.keyword_of_objectEntries {type : Option FieldType} {children : List Node}
    {properties : Entries} {shown : Value × Value}
    (member : shown ∈ objectEntries type children properties) :
    ∃ keyword ∈ ["type", "properties", "required"], shown.1 = .text keyword := by
  cases children with
  | nil =>
      rw [objectEntries_nil] at member
      cases member
  | cons child rest =>
      rw [objectEntries_cons, List.mem_append, List.mem_append] at member
      rcases member with (typed | named) | listed
      · split at typed
        · rw [List.mem_singleton.mp typed]
          exact ⟨"type", by decide, rfl⟩
        · cases typed
      · rw [List.mem_singleton.mp named]
        exact ⟨"properties", by decide, rfl⟩
      · split at listed
        · cases listed
        · rw [List.mem_singleton.mp listed]
          exact ⟨"required", by decide, rfl⟩

theorem Node.lookup?_bound (node : Node) {key : String} (bound : key ∈ Details.boundKeywords) :
    node.toOpenApi.lookup? key =
      lookup? key (.map (Details.boundsEntries node.type node.details.bounds)) := by
  have other := Details.not_mem_of_bound bound
  simp only [List.mem_append, List.mem_cons, List.not_mem_nil, or_false, not_or] at other
  obtain ⟨plain, sample, items, type, properties, required⟩ := other
  obtain ⟨front, parted, told⟩ := Details.entries_eq_append_bounds node.type node.details
  have said : entryOf? key front = none := entryOf?_of_keywords told plain
  have object : entryOf? key
      (objectEntries node.type node.children (propertiesOf node.children)) = none :=
    entryOf?_of_keywords (fun _ => keyword_of_objectEntries) (by simp [type, properties, required])
  have shown : entryOf? key node.details.sampleEntries = none :=
    entryOf?_of_keywords (fun _ => Details.keyword_of_sampleEntries) (by simp [sample])
  rw [toOpenApi_eq, lookup?, entryOf?_append, entryOf?_append, entryOf?_append, parted,
    entryOf?_append, said, object, lookup?]
  split <;> split <;> simp [entryOf?_cons, Ne.symm items, shown]

/-! What the entries for bounds state. -/

section

variable (bound : Option Number) (exclusive : Bool)

theorem Details.entryOf?_boundEntries (searched key exclusiveKey : String) :
    entryOf? searched (boundEntries key exclusiveKey bound exclusive) =
      if key = searched then bound.map .ofNumber
      else if exclusiveKey = searched ∧ exclusive = true then bound.map fun _ => .bool true
      else none := by
  cases bound with
  | none => simp [boundEntries]
  | some bound =>
      rw [boundEntries, entryOf?_cons]
      cases exclusive <;> simp [entryOf?_cons]

theorem bind_number?_ofNumber : (bound.map Value.ofNumber).bind Value.number? = bound := by
  rcases bound with _ | n | x <;> rfl

theorem any_isTrue : (if exclusive then bound.map fun _ => Value.bool true else none).any isTrue =
    (exclusive && bound.isSome) := by
  cases exclusive <;> cases bound <;> rfl

end

namespace Measure

variable {measure : Measure} {type : Option FieldType}

theorem stated_toOpenApi (measure : Measure) (node : Node) :
    measure.stated node.toOpenApi =
      measure.stated (.map (Details.boundsEntries node.type node.details.bounds)) := by
  cases measure <;> simp (disch := decide) only [stated, numberAt?, affirms, node.lookup?_bound]

theorem stated_boundsEntries (measured : ofType? type = some measure) (b : Bounds) :
    measure.stated (.map (Details.boundsEntries type b)) = (measure.statable b).effective := by
  unfold ofType? at measured
  split at measured <;> cases measured <;>
    simp [stated, numberAt?, affirms, lookup?, Details.boundsEntries, Details.boundKeys?,
      Details.isNumeric, FieldType.isNumeric, entryOf?_append, Details.entryOf?_boundEntries,
      bind_number?_ofNumber, any_isTrue, statable, Bounds.closed, Bounds.effective]

theorem stated_of_other {other : Measure} (measured : ofType? type = some measure)
    (differs : other ≠ measure) (b : Bounds) :
    other.stated (.map (Details.boundsEntries type b)) = {} := by
  unfold ofType? at measured
  split at measured <;> cases measured <;> cases other <;>
    simp_all [stated, numberAt?, affirms, lookup?, Details.boundsEntries, Details.boundKeys?,
      Details.isNumeric, FieldType.isNumeric, entryOf?_append, Details.entryOf?_boundEntries]

end Measure

/-- The keywords of the field's own measure allow what its bounds admit, as far as they can tell;
other keywords for bounds are not shown. -/
theorem bounds_rendered {f : Field} {measure : Measure}
    (measured : Measure.ofType? f.type = some measure) :
    (∀ n, (measure.stated (Node.ofField f).toOpenApi).Admits n ↔
        (measure.statable f.bounds).Admits n) ∧
      ∀ other, other ≠ measure → other.stated (Node.ofField f).toOpenApi = {} := by
  constructor
  · intro n
    have stated := Measure.stated_boundsEntries measured f.bounds
    rw [Measure.stated_toOpenApi]
    exact stated ▸ Bounds.admits_effective
  · intro other differs
    rw [Measure.stated_toOpenApi]
    exact Measure.stated_of_other measured differs f.bounds

/-! A percentage above zero and up to ten. -/

def percentage : Field :=
  (Rule.read Rule.plainSetting "rate" (.text "numeric|gt:0|lte:10") 0).1.field

theorem percentage_rendered :
    Measure.ofType? percentage.type = some .value ∧
      (∀ n, (Measure.value.stated (Node.ofField percentage).toOpenApi).Admits n ↔
        0 < n ∧ n ≤ 10) ∧
      Measure.characters.stated (Node.ofField percentage).toOpenApi = {} := by
  have bounds : percentage.bounds =
      { min := some (.int 0), max := some (.int 10), exclusiveMin := true } := by
    decide +kernel
  have measured : Measure.ofType? percentage.type = some .value := by decide +kernel
  obtain ⟨rendered, others⟩ := bounds_rendered measured
  refine ⟨measured, fun n => ?_, others .characters (by decide)⟩
  rw [rendered, Measure.statable, bounds, Bounds.Admits, Bounds.lowAdmits_int rfl,
    Bounds.highAdmits_int rfl]
  change 0 + 1 ≤ n ∧ n ≤ 10 - 0 ↔ 0 < n ∧ n ≤ 10
  omega

def longCode : Field :=
  (Rule.read Rule.plainSetting "code" (.text "string|gt:3") 0).1.field

/-- The schema allows texts of the length that `gt` excludes. -/
theorem longCode_allows_excluded :
    (Rule.read Rule.plainSetting "code" (.text "string|gt:3") 0).2 = none ∧
      longCode.type = some .string ∧
      longCode.bounds = { min := some (.int 3), exclusiveMin := true } ∧
      (Measure.characters.stated (Node.ofField longCode).toOpenApi).Admits 3 ∧
      ¬ longCode.bounds.Admits 3 :=
  ⟨Option.isNone_iff_eq_none.mp (by decide +kernel), by decide +kernel, by decide +kernel,
    by decide +kernel, by decide +kernel⟩

end Schema
end RouteDocs
