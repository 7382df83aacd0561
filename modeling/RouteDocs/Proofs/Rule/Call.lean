import RouteDocs.Proofs.Outcome
import RouteDocs.Rule.Reading

/-!
What applying one rule does. The name of the field is never changed, its type only by the effect
of the rule, and nothing is warned of.
-/

namespace RouteDocs.Rule

/-! Effects. -/

namespace Effect

variable {effect : Effect} {parameters : List String} {f : Field}

theorem name_describe : (effect.describe parameters f).name = f.name := by
  unfold describe
  split <;> rfl

theorem type_describe : (effect.describe parameters f).type = f.type := by
  unfold describe
  split <;> rfl

variable {sampler : Sampler} {now : Moment} {draw : Int} {after : Field}

theorem apply_cases (applied : effect.apply sampler now parameters draw f = .ok after) :
    ∃ bounds written, effect.bounds parameters f.bounds = .ok bounds ∧
      effect.writtenSample parameters now = .ok written ∧
      after =
        { effect.describe parameters { f with type := effect.typeAfter f.type, bounds } with
          sample := (((effect.drawnSample? sampler draw).or written).map Value.text).or
            (effect.describe parameters
              { f with type := effect.typeAfter f.type, bounds }).sample } := by
  obtain ⟨bounds, bounded, applied⟩ := Outcome.ok_of_bind applied
  obtain ⟨written, sampled, applied⟩ := Outcome.ok_of_bind applied
  cases applied
  exact ⟨bounds, written, bounded, sampled, rfl⟩

theorem name_of_apply (applied : effect.apply sampler now parameters draw f = .ok after) :
    after.name = f.name := by
  obtain ⟨bounds, written, _, _, rfl⟩ := apply_cases applied
  exact name_describe

theorem type_of_apply (applied : effect.apply sampler now parameters draw f = .ok after) :
    after.type = effect.typeAfter f.type := by
  obtain ⟨bounds, written, _, _, rfl⟩ := apply_cases applied
  exact type_describe

end Effect

/-! Rules of the catalogue. -/

namespace Reading

variable {s : Setting} {r after : Reading} {call : Call}

theorem applyCall_cases (applied : r.applyCall s call = .ok after) :
    ∃ rule made, find? call.name = some rule ∧ rule.arity ≤ call.parameters.length ∧
      rule.effect.apply s.sampler s.now call.parameters r.draw r.field = .ok made ∧
      after =
        { r with
          field := { made with
            messages := made.messages ++ (sentence? s.overrides r.field.name call.name
              call.parameters r.field.type).toList
            rules := made.rules ++
              (if isListed call.name then [RuleText.text call.toToken] else []) }
          draw := if rule.effect.draws then r.draw + 1 else r.draw } := by
  unfold applyCall at applied
  cases known : find? call.name with
  | none =>
      rw [known] at applied
      cases applied
  | some rule =>
      rw [known] at applied
      dsimp only at applied
      split at applied
      · cases applied
      · rename_i enough
        obtain ⟨field, made, applied⟩ := Outcome.ok_of_bind applied
        cases applied
        exact ⟨rule, field, rfl, Nat.le_of_not_lt enough, Outcome.ok_of_mapError made, rfl⟩

theorem name_of_applyCall (applied : r.applyCall s call = .ok after) :
    after.field.name = r.field.name := by
  obtain ⟨rule, made, _, _, effected, rfl⟩ := applyCall_cases applied
  have kept := Effect.name_of_apply effected
  exact kept

theorem type_of_applyCall (applied : r.applyCall s call = .ok after) :
    ∃ rule ∈ catalogue, after.field.type = rule.effect.typeAfter r.field.type := by
  obtain ⟨rule, made, known, _, effected, rfl⟩ := applyCall_cases applied
  have typed := Effect.type_of_apply effected
  exact ⟨rule, List.mem_of_find?_eq_some known, typed⟩

theorem warnings_of_applyCall (applied : r.applyCall s call = .ok after) :
    after.warnings = r.warnings := by
  obtain ⟨rule, made, _, _, _, rfl⟩ := applyCall_cases applied
  rfl

end Reading

/-! Rule objects of the application, which may change anything. -/

/-- The object leaves the name of the field alone. -/
def Custom.KeepsName (rule : Custom) : Prop :=
  ∀ adjustment ∈ rule.adjustments, ∀ name, adjustment ≠ .name name

def Item.KeepsName (item : Item) : Prop :=
  ∀ rule, item = .custom rule → rule.KeepsName

def Item.foreign? : Item → Option Value
  | .foreign value => some value
  | _ => none

theorem Adjustment.name_of_apply {f after : Field} {adjustment : Adjustment}
    (other : ∀ name, adjustment ≠ .name name) (applied : adjustment.apply f = .ok after) :
    after.name = f.name := by
  cases adjustment with
  | name x => exact absurd rfl (other x)
  | unknownAttribute x => cases applied
  | unknownMethod x => cases applied
  | _ =>
      cases applied
      rfl

theorem Adjustment.name_of_foldlM {adjustments : List Adjustment} {f after : Field}
    (others : ∀ adjustment ∈ adjustments, ∀ name, adjustment ≠ .name name)
    (applied : adjustments.foldlM Adjustment.apply f = .ok after) : after.name = f.name := by
  induction adjustments generalizing f with
  | nil =>
      cases applied
      rfl
  | cons head tail induction =>
      rw [List.foldlM_cons] at applied
      obtain ⟨next, first, rest⟩ := Outcome.ok_of_bind applied
      have later := induction (fun _ member => others _ (List.mem_cons_of_mem _ member)) rest
      rw [later]
      exact name_of_apply (others head (by simp)) first

namespace Reading

variable {s : Setting} {r after : Reading}

theorem name_of_applyCustom {rule : Custom} (keeps : rule.KeepsName)
    (applied : r.applyCustom rule = .ok after) : after.field.name = r.field.name := by
  obtain ⟨field, folded, applied⟩ := Outcome.ok_of_bind applied
  cases applied
  have made := Outcome.ok_of_mapError folded
  have kept := Adjustment.name_of_foldlM keeps made
  exact kept

theorem warnings_of_applyCustom {rule : Custom} (applied : r.applyCustom rule = .ok after) :
    after.warnings = r.warnings := by
  obtain ⟨field, _, applied⟩ := Outcome.ok_of_bind applied
  cases applied
  rfl

theorem step_cases {item : Item} (stepped : r.step s item = .ok after) :
    (item.foreign? = none ∧ (after = r ∨ ∃ call, r.applyCall s call = .ok after)) ∨
      (∃ rule, item = .custom rule ∧ r.applyCustom rule = .ok after) ∨
      ∃ value, item = .foreign value ∧
        after =
          { r with
            warnings := r.warnings ++ [.ruleLeftOut r.field.name value.typeName] } := by
  cases item with
  | token text =>
      rw [step] at stepped
      split at stepped
      · cases stepped
        exact .inl ⟨rfl, .inl rfl⟩
      · exact .inl ⟨rfl, .inr ⟨_, stepped⟩⟩
  | parts parts =>
      rw [step] at stepped
      split at stepped
      · cases stepped
      · exact .inl ⟨rfl, .inr ⟨_, stepped⟩⟩
  | custom rule => exact .inr (.inl ⟨rule, rfl, stepped⟩)
  | «foreign» value =>
      cases stepped
      exact .inr (.inr ⟨value, rfl, rfl⟩)

theorem name_of_step {item : Item} (keeps : item.KeepsName)
    (stepped : r.step s item = .ok after) : after.field.name = r.field.name := by
  rcases step_cases stepped with
    ⟨_, rfl | ⟨call, applied⟩⟩ | ⟨rule, same, applied⟩ | ⟨value, _, rfl⟩
  · rfl
  · exact name_of_applyCall applied
  · exact name_of_applyCustom (keeps rule same) applied
  · rfl

theorem name_of_steps {items : List Item} (keep : ∀ item ∈ items, item.KeepsName) :
    (r.steps s items).1.field.name = r.field.name := by
  induction items generalizing r with
  | nil => rfl
  | cons item rest induction =>
      rw [steps]
      cases stepped : r.step s item with
      | error failure => rfl
      | ok after =>
          dsimp only
          rw [induction fun other member => keep other (List.mem_cons_of_mem _ member)]
          exact name_of_step (keep item (by simp)) stepped

theorem warnings_of_step {item : Item} (stepped : r.step s item = .ok after) :
    after.warnings = r.warnings ++
      item.foreign?.toList.map fun value => .ruleLeftOut r.field.name value.typeName := by
  rcases step_cases stepped with
    ⟨own, rfl | ⟨call, applied⟩⟩ | ⟨rule, rfl, applied⟩ | ⟨value, rfl, rfl⟩
  · simp [own]
  · simp [own, warnings_of_applyCall applied]
  · simp [Item.foreign?, warnings_of_applyCustom applied]
  · rfl

end Reading
end RouteDocs.Rule
