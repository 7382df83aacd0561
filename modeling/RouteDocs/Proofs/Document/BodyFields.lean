import RouteDocs.Document.Assemble
import RouteDocs.Proofs.Action
import RouteDocs.Proofs.Rule.Written
import RouteDocs.Proofs.Schema.Visible

/-!
The body of a request against the fields that are declared for it. A field is found in the
rendered body at its path, unless a wildcard of the path follows a place that is no array.
-/

namespace RouteDocs

open RouteDocs.Action (after)
open RouteDocs.Schema (Node segments)

theorem Field.name_of_enrich {s : Sampler} {f enriched : Field} {draw next : Int}
    (enriches : f.enrich s draw = .ok (enriched, next)) : enriched.name = f.name := by
  unfold Field.enrich at enriches
  split at enriches
  · cases enriches
    rfl
  · obtain ⟨guess, _, enriches⟩ := Outcome.ok_of_bind enriches
    cases guess <;>
      · cases enriches
        rfl

namespace Document

variable {s : Rule.Setting}

theorem name_of_readField {name : String} {rules : Rule.Given} {run last : Run} {f : Field}
    (keep : ∀ item ∈ rules.items, item.KeepsName)
    (read : after (readField s name rules) run = (.ok f, last)) : f.name = name := by
  obtain ⟨here, _, got, read⟩ := Action.after_bind_ok read
  cases got
  have named : (Rule.read s name rules run.draw).1.field.name = name :=
    Rule.Reading.name_of_steps keep
  obtain ⟨_, _, modified, read⟩ := Action.after_bind_ok read
  cases modified
  split at read
  · cases read
  · obtain ⟨enriched, _, lifted, read⟩ := Action.after_bind_ok read
    obtain ⟨_, _, modified, read⟩ := Action.after_bind_ok read
    cases modified
    cases read
    obtain ⟨enriches, _⟩ := Action.ok_of_after_liftFault lifted
    exact (Field.name_of_enrich enriches).trans named

theorem names_of_readFields {route : Nat} {inBody : Bool} {rules : FieldRules} {run last : Run}
    {fields : List Field} (keep : ∀ rule ∈ rules, ∀ item ∈ rule.2.items, item.KeepsName)
    (read : after (readFields s route inBody rules) run = (.ok fields, last)) :
    fields.map Field.name = rules.map Prod.fst := by
  unfold readFields at read
  -- The number of the first field has to vary for the induction.
  generalize 0 = index at read
  induction rules generalizing index run fields with
  | nil =>
      cases read
      rfl
  | cons rule rest induction =>
      rw [List.zipIdx_cons, List.mapM_cons] at read
      obtain ⟨made, between, first, read⟩ := Action.after_bind_ok read
      obtain ⟨others, _, following, read⟩ := Action.after_bind_ok read
      cases read
      obtain ⟨f, _, here, kept⟩ := Action.after_bind_ok first
      cases kept
      rw [List.map_cons, List.map_cons,
        induction (fun other member => keep other (List.mem_cons_of_mem _ member)) _ following,
        ← name_of_readField (keep rule (by simp)) here]
      rfl

theorem after_requestBody {app : App} {route : Nat} {request : ClassName} {rules : FieldRules}
    {run last : Run} {fields : List Field} (declared : app.bodyRules request = .ok rules)
    (read : after (readFields s route true rules) run = (.ok fields, last)) :
    after (requestBody app s route request) run = (.ok (bodyOf? fields), last) := by
  unfold requestBody
  rw [Action.after_bind, Action.after_lift, declared]
  dsimp only
  rw [Action.after_bind, read]
  rfl

theorem schema_of_bodyOf? {fields : List Field} {f : Field} (member : f ∈ fields) :
    (bodyOf? fields).map RequestBody.schema = some (Node.ofFields fields .string) := by
  cases fields with
  | nil => cases member
  | cons head tail => rfl

/-- A request whose rules can be read has a body, and a field that is declared for it is found
there exactly if its path is visible. -/
theorem requestBody_shows_iff {app : App} {route : Nat} {request : ClassName}
    {rules : FieldRules} {run last : Run} {fields : List Field}
    (declared : app.bodyRules request = .ok rules) (distinct : (rules.map Prod.fst).Nodup)
    (keep : ∀ rule ∈ rules, ∀ item ∈ rule.2.items, item.KeepsName)
    (read : after (readFields s route true rules) run = (.ok fields, last)) :
    ∃ body, after (requestBody app s route request) run = (.ok body, last) ∧
      ∀ rule ∈ rules,
        ((body.bind fun b => Node.shown? (segments rule.1) b.schema.toOpenApi).isSome ↔
          Node.Visible fields (segments rule.1)) := by
  have names := names_of_readFields keep read
  refine ⟨bodyOf? fields, after_requestBody declared read, fun rule member => ?_⟩
  obtain ⟨f, among, named⟩ : ∃ f ∈ fields, f.name = rule.1 :=
    List.mem_map.mp (names ▸ List.mem_map_of_mem member)
  have found : ((bodyOf? fields).bind fun b =>
      Node.shown? (segments rule.1) b.schema.toOpenApi) =
        Node.shown? (segments f.name) (Node.ofFields fields .string).toOpenApi := by
    have schema := schema_of_bodyOf? among
    obtain ⟨body, made, same⟩ := Option.map_eq_some_iff.mp schema
    rw [made, Option.bind_some, same, named]
  obtain ⟨shown, hidden⟩ := Node.shown?_ofFields (names ▸ distinct) .string among
  rw [found, ← named]
  constructor
  · intro present
    by_contra invisible
    rw [hidden invisible] at present
    cases present
  · intro visible
    obtain ⟨node, _, present⟩ := shown visible
    rw [present]
    rfl

/-! A body that is a list itself, and one field that is a list. -/

def listRequest : ClassName := ⟨"shop", "ListRequest"⟩

def listRules : FieldRules :=
  [("*.id", .text "required|integer"), ("tags.*", .text "string")]

def listing : App where
  ownClasses := [{ name := listRequest, parent := some Contract.requestName, rules := some listRules }]

def listSetting : Rule.Setting := settingOf .counting {} default

theorem keepsName_listRules : ∀ rule ∈ listRules, ∀ item ∈ rule.2.items, item.KeepsName := by
  simp only [listRules, List.forall_mem_cons]
  exact ⟨(Rule.Written.text _).keepsName, (Rule.Written.text _).keepsName, nofun⟩

theorem requestBody_listing :
    listing.bodyRules listRequest = .ok listRules ∧ (listRules.map Prod.fst).Nodup ∧
      (∀ rule ∈ listRules, ∀ item ∈ rule.2.items, item.KeepsName) ∧
      ∃ fields last, after (readFields listSetting 0 true listRules) {} = (.ok fields, last) ∧
        ∃ body, after (requestBody listing listSetting 0 listRequest) {} = (.ok body, last) ∧
          ∀ rule ∈ listRules,
            ((body.bind fun b => Node.shown? (segments rule.1) b.schema.toOpenApi).isSome ↔
              Node.Visible fields (segments rule.1)) := by
  have readable : (after (readFields listSetting 0 true listRules) {}).1.isOk = true := by
    decide +kernel
  have declared : listing.bodyRules listRequest = .ok listRules := rfl
  have distinct : (listRules.map Prod.fst).Nodup := by decide
  refine ⟨declared, distinct, keepsName_listRules, ?_⟩
  cases read : after (readFields listSetting 0 true listRules) {} with
  | mk result last =>
      rw [read] at readable
      cases result with
      | error failure => cases readable
      | ok fields =>
          exact ⟨fields, last, rfl,
            requestBody_shows_iff declared distinct keepsName_listRules read⟩

/-- The list at the root is lost, though its rules can be read. -/
theorem rootItems_not_shown :
    listing.bodyRules listRequest = .ok listRules ∧
      (after (requestBody listing listSetting 0 listRequest) {}).1.toOption.map (fun body =>
        listRules.map fun rule =>
          (body.bind fun b => Node.shown? (segments rule.1) b.schema.toOpenApi).isSome) =
        some [false, true] :=
  ⟨rfl, by decide +kernel⟩

end Document
end RouteDocs
