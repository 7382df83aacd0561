import RouteDocs.Proofs.Field.Union
import RouteDocs.Proofs.Rule.Calls

/-!
What rules add to a field, whatever the field is like. A run of calls adds up to the additions of
all of its calls, in their order.
-/

namespace RouteDocs.Rule

structure Addition where
  required : Bool := false
  nullable : Bool := false
  literals : Option (List Value) := none
  characters : List String := []
  extensions : Option (List String) := none

def Effect.addition (parameters : List String) : Effect → Addition
  | nullable => { nullable := true }
  | required => { required := true }
  | answers needed values => { required := needed, literals := some values }
  | truth =>
      { literals := some [.bool true, .bool false, .int 0, .int 1, .text "0", .text "1"] }
  | image => { extensions := some imageExtensions }
  | extensions => { extensions := some (parameters.map extension) }
  | characters alphabet => { characters := alphabet }
  | oneOf => { literals := some (parameters.map .text) }
  | _ => {}

/-- The attributes to which rules add, in a field and after an addition to it. -/
structure Adds (f : Field) (addition : Addition) (after : Field) : Prop where
  required : after.required = (f.required || addition.required)
  nullable : after.nullable = (f.nullable || addition.nullable)
  literals : after.literals.getD [] =
    Field.unite Value.sameLiteral (f.literals.getD []) (addition.literals.getD [])
  someLiterals : after.literals.isSome = (f.literals.isSome || addition.literals.isSome)
  characters : after.validCharacters =
    Field.unite (· == ·) f.validCharacters addition.characters
  extensions : after.fileExtensions.getD [] =
    Field.unite (· == ·) (f.fileExtensions.getD []) (addition.extensions.getD [])
  someExtensions : after.fileExtensions.isSome =
    (f.fileExtensions.isSome || addition.extensions.isSome)

namespace Effect

theorem adds_describe (effect : Effect) (parameters : List String) (f : Field) :
    Adds f (effect.addition parameters) (effect.describe parameters f) := by
  cases effect with
  | specimen format kind => cases format <;> constructor <;> simp [describe, addition]
  | _ =>
      constructor <;>
        simp [describe, addition, Field.addLiterals, Field.addValidCharacters,
          Field.addFileExtensions]

theorem bounds_describe (effect : Effect) (parameters : List String) (f : Field) :
    (effect.describe parameters f).bounds = f.bounds := by
  unfold describe
  split <;> rfl

variable {effect : Effect} {parameters : List String} {f : Field}

theorem rules_describe : (effect.describe parameters f).rules = f.rules := by
  unfold describe
  split <;> rfl

theorem messages_describe : (effect.describe parameters f).messages = f.messages := by
  unfold describe
  split <;> rfl

variable {sampler : Sampler} {now : Moment} {draw : Int} {after : Field}

theorem rules_of_apply (applied : effect.apply sampler now parameters draw f = .ok after) :
    after.rules = f.rules := by
  obtain ⟨bounds, written, _, _, rfl⟩ := apply_cases applied
  exact rules_describe

theorem messages_of_apply (applied : effect.apply sampler now parameters draw f = .ok after) :
    after.messages = f.messages := by
  obtain ⟨bounds, written, _, _, rfl⟩ := apply_cases applied
  exact messages_describe

theorem bounds_of_apply (applied : effect.apply sampler now parameters draw f = .ok after) :
    effect.bounds parameters f.bounds = .ok after.bounds := by
  obtain ⟨bounds, written, bounded, _, rfl⟩ := apply_cases applied
  have kept := bounds_describe effect parameters { f with type := effect.typeAfter f.type, bounds }
  rw [bounded]
  exact congrArg Except.ok kept.symm

end Effect

namespace Call

def addition (call : Call) : Addition :=
  match find? call.name with
  | some rule => rule.effect.addition call.parameters
  | none => {}

/-- Does the call draw an example? -/
def draws (call : Call) : Bool :=
  match find? call.name with
  | some rule => rule.effect.draws
  | none => false

def listing (call : Call) : List RuleText :=
  if Reading.isListed call.name then [.text call.toToken] else []

/-- The sentence that describes the call for a field, by the type that the field has. -/
def sentence? (s : Setting) (f : Field) (call : Call) : Option String :=
  Rule.sentence? s.overrides f.name call.name call.parameters f.type

theorem plain_of_answers {rule : Rule} (member : rule ∈ catalogue) {needed : Bool}
    {values : List Value} (gives : rule.effect = .answers needed values) :
    ∀ literal ∈ values, literal.isPlain = true := by
  have all : catalogue.all (fun rule => match rule.effect with
      | .answers _ values => values.all Value.isPlain
      | _ => true) = true := by decide
  have here := List.all_eq_true.mp all rule member
  rw [gives] at here
  exact List.all_eq_true.mp here

theorem plain_of_addition (call : Call) :
    ∀ literal ∈ call.addition.literals.getD [], literal.isPlain = true := by
  rw [addition]
  split
  · rename_i rule known
    have member := List.mem_of_find?_eq_some known
    cases effect : rule.effect with
    | answers needed values => exact plain_of_answers member effect
    | truth => simp [Effect.addition, Value.isPlain]
    | oneOf => simp [Effect.addition, Value.isPlain]
    | _ => simp [Effect.addition]
  · simp

end Call

/-- What a run of calls leaves of the reading before it, and what it adds. -/
structure Gathered (r : Reading) (calls : List Call) (after : Reading) : Prop where
  required : after.field.required =
    (r.field.required || calls.any fun call => call.addition.required)
  nullable : after.field.nullable =
    (r.field.nullable || calls.any fun call => call.addition.nullable)
  literals : after.field.literals.getD [] =
    Field.unite Value.sameLiteral (r.field.literals.getD [])
      (calls.flatMap fun call => call.addition.literals.getD [])
  someLiterals : after.field.literals.isSome =
    (r.field.literals.isSome || calls.any fun call => call.addition.literals.isSome)
  characters : after.field.validCharacters =
    Field.unite (· == ·) r.field.validCharacters
      (calls.flatMap fun call => call.addition.characters)
  extensions : after.field.fileExtensions.getD [] =
    Field.unite (· == ·) (r.field.fileExtensions.getD [])
      (calls.flatMap fun call => call.addition.extensions.getD [])
  someExtensions : after.field.fileExtensions.isSome =
    (r.field.fileExtensions.isSome || calls.any fun call => call.addition.extensions.isSome)
  rules : after.field.rules = r.field.rules ++ calls.flatMap Call.listing
  draw : after.draw = r.draw + calls.countP Call.draws

namespace Reading

variable {s : Setting} {r after : Reading}

theorem adds_of_applyCall {call : Call} (applied : r.applyCall s call = .ok after) :
    Adds r.field call.addition after.field := by
  obtain ⟨rule, made, known, _, effected, rfl⟩ := applyCall_cases applied
  obtain ⟨bounds, written, _, _, rfl⟩ := Effect.apply_cases effected
  -- Neither the type nor the bounds count for what is added.
  have described := rule.effect.adds_describe call.parameters
    { r.field with type := rule.effect.typeAfter r.field.type, bounds }
  rw [Call.addition, known]
  exact ⟨described.required, described.nullable, described.literals, described.someLiterals,
    described.characters, described.extensions, described.someExtensions⟩

theorem rules_of_applyCall {call : Call} (applied : r.applyCall s call = .ok after) :
    after.field.rules = r.field.rules ++ call.listing := by
  obtain ⟨rule, made, _, _, effected, rfl⟩ := applyCall_cases applied
  rw [← Effect.rules_of_apply effected]
  rfl

theorem messages_of_applyCall {call : Call} (applied : r.applyCall s call = .ok after) :
    after.field.messages = r.field.messages ++ (call.sentence? s r.field).toList := by
  obtain ⟨rule, made, _, _, effected, rfl⟩ := applyCall_cases applied
  rw [← Effect.messages_of_apply effected]
  rfl

theorem bounds_of_applyCall {call : Call} (applied : r.applyCall s call = .ok after) :
    ∃ rule, find? call.name = some rule ∧
      rule.effect.bounds call.parameters r.field.bounds = .ok after.field.bounds := by
  obtain ⟨rule, made, known, _, effected, rfl⟩ := applyCall_cases applied
  have bounded := Effect.bounds_of_apply effected
  exact ⟨rule, known, bounded⟩

theorem draw_of_applyCall {call : Call} (applied : r.applyCall s call = .ok after) :
    after.draw = if call.draws then r.draw + 1 else r.draw := by
  obtain ⟨rule, made, known, _, _, rfl⟩ := applyCall_cases applied
  rw [Call.draws, known]

theorem gathered_of_applyCalls {calls : List Call} (applied : r.applyCalls s calls = .ok after) :
    Gathered r calls after := by
  induction calls generalizing r with
  | nil =>
      cases applied
      constructor <;> simp
  | cons call rest induction =>
      obtain ⟨next, first, later⟩ := applyCalls_cons_iff.mp applied
      have added := adds_of_applyCall first
      have gathered := induction later
      constructor
      · rw [gathered.required, added.required, List.any_cons, Bool.or_assoc]
      · rw [gathered.nullable, added.nullable, List.any_cons, Bool.or_assoc]
      · rw [gathered.literals, added.literals, List.flatMap_cons, Field.unite_append]
      · rw [gathered.someLiterals, added.someLiterals, List.any_cons, Bool.or_assoc]
      · rw [gathered.characters, added.characters, List.flatMap_cons, Field.unite_append]
      · rw [gathered.extensions, added.extensions, List.flatMap_cons, Field.unite_append]
      · rw [gathered.someExtensions, added.someExtensions, List.any_cons, Bool.or_assoc]
      · rw [gathered.rules, rules_of_applyCall first, List.flatMap_cons, List.append_assoc]
      · rw [gathered.draw, draw_of_applyCall first, List.countP_cons]
        split
        · push_cast
          omega
        · simp

end Reading

/-! What is there after calls on a field that had nothing. -/

namespace Gathered

variable {name : String} {start : Int} {calls : List Call} {after : Reading}

theorem plain_of_calls : ∀ literal ∈ calls.flatMap fun call => call.addition.literals.getD [],
    literal.isPlain = true := by
  intro literal member
  obtain ⟨call, _, member⟩ := List.mem_flatMap.mp member
  exact call.plain_of_addition literal member

theorem mem_literals (gathered : Gathered { field := { name }, draw := start } calls after)
    (literal : Value) :
    literal ∈ after.field.literals.getD [] ↔
      literal ∈ calls.flatMap fun call => call.addition.literals.getD [] := by
  rw [gathered.literals, Field.mem_unite]
  · simp
  · intro item member other among
    exact (Value.sameLiteral_iff (plain_of_calls item member)
      (plain_of_calls other (by simpa using among))).mp

theorem nodup_literals (gathered : Gathered { field := { name }, draw := start } calls after) :
    (after.field.literals.getD []).Nodup := by
  rw [gathered.literals]
  refine Field.nodup_unite (fun item member => ?_) List.nodup_nil
  exact (Value.sameLiteral_iff (plain_of_calls item member) (plain_of_calls item member)).mpr rfl

theorem mem_characters (gathered : Gathered { field := { name }, draw := start } calls after)
    (character : String) :
    character ∈ after.field.validCharacters ↔
      character ∈ calls.flatMap fun call => call.addition.characters := by
  rw [gathered.characters, Field.mem_unite (by simp)]
  simp

theorem mem_extensions (gathered : Gathered { field := { name }, draw := start } calls after)
    (extension : String) :
    extension ∈ after.field.fileExtensions.getD [] ↔
      extension ∈ calls.flatMap fun call => call.addition.extensions.getD [] := by
  rw [gathered.extensions, Field.mem_unite (by simp)]
  simp

end Gathered
end RouteDocs.Rule
