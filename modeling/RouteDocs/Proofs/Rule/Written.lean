import RouteDocs.Proofs.Rule.Call

/-! Fields whose rules are written as texts. Their types are among the known ones. -/

namespace RouteDocs.Rule

/-- Rules in a text, or in lists of texts in any depth. -/
inductive Written : Given → Prop
  | text (text : String) : Written (.text text)
  | list {items : List Given} (each : ∀ item ∈ items, Written item) : Written (.list items)

theorem itemsOf_eq_flatMap (given : List Given) : itemsOf given = given.flatMap Given.items := by
  induction given with
  | nil => rfl
  | cons first rest induction => rw [itemsOf, induction, List.flatMap_cons]

theorem written_texts (texts : List String) : Written (.list (texts.map .text)) := by
  refine .list fun item member => ?_
  obtain ⟨text, _, rfl⟩ := List.mem_map.mp member
  exact .text text

theorem Written.of_mem {given : Given} (written : Written given) :
    ∀ item ∈ given.items, ∃ text, ∃ token ∈ tokens text, item = .token token := by
  induction written with
  | text text =>
      intro item member
      obtain ⟨token, among, rfl⟩ := List.mem_map.mp member
      exact ⟨text, token, among, rfl⟩
  | @list items _ induction =>
      intro item member
      rw [Given.items, itemsOf_eq_flatMap, List.mem_flatMap] at member
      obtain ⟨inner, among, member⟩ := member
      exact induction inner among item member

theorem Written.token_of_mem {given : Given} (written : Written given) :
    ∀ item ∈ given.items, ∃ token, item = .token token := by
  intro item member
  obtain ⟨_, token, _, same⟩ := written.of_mem item member
  exact ⟨token, same⟩

/-- What is read from rules in texts, without a failure. -/
def ReadFromText (f : Field) : Prop :=
  ∃ s rules draw, Written rules ∧ (read s f.name rules draw).2 = none ∧
    (read s f.name rules draw).1.field = f

theorem Written.keepsName {given : Given} (written : Written given) :
    ∀ item ∈ given.items, item.KeepsName := by
  intro item member rule same
  obtain ⟨token, rfl⟩ := written.token_of_mem item member
  cases same

theorem readFromText_of_read {s : Setting} {name : String} {rules : Given} {draw : Int}
    (written : Written rules) (succeeds : (read s name rules draw).2 = none) :
    ReadFromText (read s name rules draw).1.field := by
  have named : (read s name rules draw).1.field.name = name :=
    Reading.name_of_steps written.keepsName
  refine ⟨s, rules, draw, written, ?_, ?_⟩
  · rw [named]
    exact succeeds
  · rw [named]

def Known (type : Option FieldType) : Prop :=
  ∀ found, type = some found → found ∈ FieldType.known

theorem known_none : Known none := fun _ none => nomatch none

theorem known_some {type : FieldType} (among : type ∈ FieldType.known) : Known (some type) := by
  rintro _ ⟨⟩
  exact among

theorem known_of_named {type : Option FieldType} (known : Known type) :
    Known (some ((FieldType.named? type).getD .string)) := by
  apply known_some
  cases named : FieldType.named? type with
  | none => decide
  | some found =>
      have given := (Option.filter_eq_some_iff.mp named).1
      exact known found given

/-- The types that rules of the catalogue give outright. -/
theorem known_of_type {rule : Rule} (member : rule ∈ catalogue) {type : FieldType}
    (gives : rule.effect = .type type) : type ∈ FieldType.known := by
  have all : catalogue.all (fun rule => match rule.effect with
      | .type type => decide (type ∈ FieldType.known)
      | _ => true) = true := by decide
  have here := List.all_eq_true.mp all rule member
  rw [gives] at here
  exact of_decide_eq_true here

theorem known_typeAfter {rule : Rule} (member : rule ∈ catalogue) {type : Option FieldType}
    (known : Known type) : Known (rule.effect.typeAfter type) := by
  cases effect : rule.effect with
  | type given => exact known_some (known_of_type member effect)
  | multiple =>
      rw [Effect.typeAfter]
      split
      · exact known
      · exact known_some (by decide)
  | pattern => exact known_of_named known
  | otherPattern => exact known_of_named known
  | truth | image | extensions | date | specimen _ _ | json | textPattern _ | characters _
  | digits | digitsBetween | minDigits | maxDigits | nearDate _ | dateFormat =>
      exact known_some (by decide)
  | _ => exact known

namespace Reading

theorem known_of_step {s : Setting} {r after : Reading} {token : String} (known : Known r.field.type)
    (stepped : r.step s (.token token) = .ok after) : Known after.field.type := by
  rw [step] at stepped
  split at stepped
  · cases stepped
    exact known
  · obtain ⟨rule, member, typed⟩ := type_of_applyCall stepped
    rw [typed]
    exact known_typeAfter member known

theorem known_of_steps {s : Setting} {r : Reading} {items : List Item} (known : Known r.field.type)
    (tokens : ∀ item ∈ items, ∃ token, item = .token token) :
    Known (r.steps s items).1.field.type := by
  induction items generalizing r with
  | nil => exact known
  | cons item rest induction =>
      obtain ⟨token, rfl⟩ := tokens item (by simp)
      rw [steps]
      cases stepped : r.step s (.token token) with
      | error failure => exact known
      | ok after =>
          exact induction (known_of_step known stepped)
            fun other member => tokens other (List.mem_cons_of_mem _ member)

end Reading

theorem ReadFromText.known {f : Field} (read : ReadFromText f) : Known f.type := by
  obtain ⟨s, rules, draw, written, _, same⟩ := read
  rw [← same]
  exact Reading.known_of_steps known_none written.token_of_mem

end RouteDocs.Rule
