import RouteDocs.Proofs.Action
import RouteDocs.Proofs.Schema.Inference
import RouteDocs.Proofs.Schema.Naming

/-!
Which values have a schema. A schema is inferred place by place, and inference fails at the first
place that holds an empty sequence or a value of another kind than samples are made of. The failure
has the name that the place was given: the text of its key, or none for the items of a sequence.
-/

namespace RouteDocs

namespace Value

/-- The items of a sequence. Texts and octets are none. -/
def sequence? : Value → Option (List Value)
  | list items => some items
  | tuple items => some items
  | range start stop => some ((rangeItems start stop).map .int)
  | _ => none

def isScalar : Value → Bool
  | null | bool _ | int _ | real _ | text _ => true
  | _ => false

def isMapping : Value → Bool
  | map _ | view _ => true
  | _ => false

theorem rangeItems_eq_nil_iff {start stop : Int} :
    rangeItems start stop = [] ↔ ¬ start < stop := by
  rw [rangeItems, List.map_eq_nil_iff, List.range_eq_nil]
  omega

end Value

namespace Schema

/-- Why a place has no schema, whatever stands below it. -/
def Place.refusal? (place : Place) : Option Failure :=
  match place.value.sequence? with
  | some items => if items.isEmpty then some (.emptySequence place.name) else none
  | none =>
      if place.value.isScalar || place.value.isMapping then none
      else some (.unsupportedValue place.name place.value)

theorem refusal?_range (name : Option String) (start stop : Int) :
    Place.refusal? ⟨name, .range start stop⟩ =
      if start < stop then none else some (.emptySequence name) := by
  simp only [Place.refusal?, Value.sequence?, List.isEmpty_iff, List.map_eq_nil_iff,
    Value.rangeItems_eq_nil_iff]
  split <;> simp_all

namespace Node

open RouteDocs.Outcome (error? error?_bind error?_bind_pure)

section

variable {convert : Option String → ClassName → Outcome Node}

mutual

/-- Resources are places like others where they are refused. -/
theorem error?_inferWith : (name : Option String) → (value : Value) →
    (∀ type, value.Contains type → ∀ name,
      error? (convert name type) = some (.unsupportedValue name (.rendering type))) →
    error? (inferWith convert name value) = (places name value).findSome? Place.refusal?
  | name, .bool b, _ => rfl
  | name, .int n, _ => rfl
  | name, .real x, _ => rfl
  | name, .text s, _ => rfl
  | name, .null, _ => rfl
  | name, .map entries, refused =>
      (error?_bind_pure _ _).trans <|
        error?_inferEntries entries fun entry member type inside => refused type (.map member inside)
  | name, .view entries, refused =>
      (error?_bind_pure _ _).trans <|
        error?_inferEntries entries fun entry member type inside => refused type (.view member inside)
  | name, .list [], _ => rfl
  | name, .list (first :: rest), refused =>
      (error?_bind_pure _ _).trans <|
        error?_inferWith none first fun type inside => refused type (.list List.mem_cons_self inside)
  | name, .tuple [], _ => rfl
  | name, .tuple (first :: rest), refused =>
      (error?_bind_pure _ _).trans <|
        error?_inferWith none first fun type inside => refused type (.tuple List.mem_cons_self inside)
  | name, .range start stop, _ => by
      rw [inferWith, places, List.findSome?_cons, refusal?_range]
      split <;> rfl
  | name, .rendering type, refused => refused type .rendering name
  | name, .kept _ value, refused =>
      error?_inferWith name value fun type inside => refused type (.kept inside)
  | name, .bytes isBuffer octets, _ => rfl
  | name, .set items, _ => rfl
  | name, .date d, _ => rfl
  | name, .moment m, _ => rfl
  | name, .object typeName, _ => rfl

theorem error?_inferEntries : (entries : List (Value × Value)) →
    (∀ entry ∈ entries, ∀ type, entry.2.Contains type → ∀ name,
      error? (convert name type) = some (.unsupportedValue name (.rendering type))) →
    error? (inferEntries convert entries) = (placesIn entries).findSome? Place.refusal?
  | [], _ => rfl
  | (key, value) :: rest, refused => by
      have first := error?_inferWith (some key.display) value (refused _ List.mem_cons_self)
      have others := error?_inferEntries rest fun entry member =>
        refused entry (List.mem_cons_of_mem _ member)
      rw [inferEntries, placesIn, List.findSome?_append, ← first, ← others]
      exact error?_bind fun child _ => error?_bind_pure _ _

end

end

/-- A conversion of resources is not asked where there are none. -/
def unasked : Correspondence Action Outcome where
  rel step outcome := step = Action.lift outcome
  rel_pure _ := rfl
  rel_throw _ := rfl
  rel_bind {_ _ _ second _ _} first next := by
    rw [first]
    cases second with
    | error failure => rfl
    | ok a => exact next a

theorem ofValue_fails_at_first (name : Option String) (value : Value) :
    ((∃ node, ofValue name value = .ok node) ↔
        ∀ place ∈ places name value, place.refusal? = none) ∧
      (∀ failure, ofValue name value = .error failure ↔
        ∃ before place later, places name value = before ++ place :: later ∧
          (∀ earlier ∈ before, earlier.refusal? = none) ∧ place.refusal? = some failure) ∧
      ∀ convert : Option String → ClassName → Action Node, (∀ type, ¬ value.Contains type) →
        inferWith convert name value = Action.lift (ofValue name value) := by
  have first : error? (ofValue name value) = (places name value).findSome? Place.refusal? :=
    error?_inferWith name value fun _ _ _ => rfl
  refine ⟨?_, fun failure => ?_, fun convert plain => ?_⟩
  · rw [← List.findSome?_eq_none_iff, ← first]
    cases ofValue name value <;> simp [error?]
  · have failed : ofValue name value = .error failure ↔ error? (ofValue name value) = some failure := by
      cases ofValue name value <;> simp [error?]
    rw [failed, first, List.findSome?_eq_some_iff]
    simp [and_comm, and_left_comm]
  · exact inferWith_rel unasked name value fun type inside => absurd inside (plain type)

/-- A draft with two places that have no schema: octets, and behind them an empty list. -/
def draft : Value :=
  .map [
    (.int 1, .tuple [.map [(.null, .bytes false [])], .list []]),
    (.text "tags", .list [])]

theorem not_contains_draft (type : ClassName) : ¬ draft.Contains type := by
  intro inside
  cases inside with
  | map member inside =>
      rcases List.mem_pair.mp member with rfl | rfl
      · cases inside with
        | tuple member inside =>
            rcases List.mem_pair.mp member with rfl | rfl
            · cases inside with
              | map member inside =>
                  cases List.mem_singleton.mp member
                  cases inside
            · cases inside with
              | list member inside => cases member
      · cases inside with
        | list member inside => cases member

theorem draft_fails_at_octets :
    ofValue (some "draft") draft = .error (.unsupportedValue (some "None") (.bytes false [])) ∧
      (∀ type, ¬ draft.Contains type) ∧
        ∀ convert : Option String → ClassName → Action Node,
          inferWith convert (some "draft") draft = Action.lift (ofValue (some "draft") draft) := by
  obtain ⟨_, fails, unasked⟩ := ofValue_fails_at_first (some "draft") draft
  refine ⟨(fails _).mpr ?_, not_contains_draft, fun convert => unasked convert not_contains_draft⟩
  exact ⟨(places (some "draft") draft).take 3, ⟨some "None", .bytes false []⟩,
    [⟨some "tags", .list []⟩], rfl, by decide, rfl⟩

end Node
end Schema
end RouteDocs
