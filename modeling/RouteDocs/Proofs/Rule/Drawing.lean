import RouteDocs.Proofs.Field.Enriched
import RouteDocs.Proofs.Mirrors
import RouteDocs.Rule.Reading

/-!
Rules that are read from different draws on. What they say about the field is the same, and so is
whether they draw; only the examples that are drawn are others.
-/

namespace RouteDocs

open Outcome (Mirrors)

variable {shift : Int}

/-- Whether there is an example, without the example itself. -/
def maskSample (sample : Option Value) : Option Value := sample.map fun _ => .null

def Field.resample (f : Field) (sample : Option Value) : Field := { f with sample }

/-- The field with its example masked. -/
def Field.mask (f : Field) : Field := f.resample (maskSample f.sample)

theorem maskSample_idem (sample : Option Value) : maskSample (maskSample sample) = maskSample sample := by
  cases sample <;> rfl

theorem maskSample_or (sample other : Option Value) :
    maskSample (sample.or other) = (maskSample sample).or (maskSample other) := by
  cases sample <;> rfl

theorem Field.sample_mask (f : Field) : f.mask.sample = maskSample f.sample := rfl

theorem Field.mask_eq_self (f : Field) (missing : f.sample = none) : f.mask = f := by
  rw [mask, missing]
  cases f
  cases missing
  rfl

theorem Field.mask_resample (f : Field) (sample : Option Value) :
    (f.resample sample).mask = f.resample (maskSample sample) := rfl

theorem Field.resample_mask (f : Field) (sample : Option Value) :
    f.mask.resample sample = f.resample sample := rfl

def Field.note (messages : List String) (rules : List RuleText) (f : Field) : Field :=
  { f with messages := f.messages ++ messages, rules := f.rules ++ rules }

theorem Field.mask_note (messages : List String) (rules : List RuleText) (f : Field) :
    (f.note messages rules).mask = f.mask.note messages rules := rfl

theorem Resembles.field_eq {f g : Field} (resembles : Resembles shift Field.mask f g)
    {α : Type} (read : Field → α) (blind : ∀ f, read f.mask = read f) : read f = read g := by
  rw [← blind f, resembles.masked, blind g]

theorem Rule.Adjustment.mask_apply (adjustment : Adjustment) (f : Field) :
    (adjustment.apply f).map Field.mask = (adjustment.apply f.mask).map Field.mask := by
  cases adjustment <;>
    simp [apply, Except.map, Field.mask, Field.resample, maskSample_idem, Field.addLiterals,
      Field.addValidCharacters, Field.addRequiredCharacter, Field.addFileExtensions]

namespace Rule

/-! One effect. -/

namespace Effect

variable (effect : Effect) (parameters : List String)

theorem describe_mask (f : Field) :
    effect.describe parameters f.mask = (effect.describe parameters f).mask := by
  cases effect with
  | specimen format kind => cases format <;> rfl
  | _ => rfl

theorem mask_drawnSample (sampler : Sampler) (draw other : Int) :
    maskSample ((effect.drawnSample? sampler draw).map Value.text) =
      maskSample ((effect.drawnSample? sampler other).map Value.text) := by
  cases effect <;> rfl

theorem apply_of {sampler : Sampler} {now : Moment} {f : Field} {bounds : Bounds}
    {written : Option String} (bounded : effect.bounds parameters f.bounds = .ok bounds)
    (sampled : effect.writtenSample parameters now = .ok written) (draw : Int) :
    effect.apply sampler now parameters draw f =
      .ok ((effect.describe parameters { f with type := effect.typeAfter f.type, bounds }).resample
        ((((effect.drawnSample? sampler draw).or written).map Value.text).or
          (effect.describe parameters
            { f with type := effect.typeAfter f.type, bounds }).sample)) := by
  rw [apply, bounded, sampled]
  rfl

/-- An effect says the same about a field whose example it does not see, whatever it draws. -/
theorem mask_apply (sampler : Sampler) (now : Moment) (draw other : Int) (f : Field) :
    (effect.apply sampler now parameters draw f).map Field.mask =
      (effect.apply sampler now parameters other f.mask).map Field.mask := by
  cases bounded : effect.bounds parameters f.bounds with
  | error fault =>
      have also : effect.bounds parameters f.mask.bounds = .error fault := bounded
      rw [apply, apply, bounded, also]
      rfl
  | ok bounds =>
      cases sampled : effect.writtenSample parameters now with
      | error fault =>
          have also : effect.bounds parameters f.mask.bounds = .ok bounds := bounded
          rw [apply, apply, bounded, also, sampled]
          rfl
      | ok written =>
          -- All but the example is set before the example that is there is looked at.
          have described : effect.describe parameters
              { f.mask with type := effect.typeAfter f.mask.type, bounds } =
                (effect.describe parameters
                  { f with type := effect.typeAfter f.type, bounds }).mask :=
            effect.describe_mask parameters { f with type := effect.typeAfter f.type, bounds }
          have also : effect.bounds parameters f.mask.bounds = .ok bounds := bounded
          rw [effect.apply_of parameters bounded sampled, effect.apply_of parameters also sampled,
            described]
          refine congrArg Except.ok ?_
          rw [Field.mask_resample, Field.mask_resample, Field.resample_mask]
          refine congrArg (Field.resample _) ?_
          rw [Option.map_or, Option.map_or, maskSample_or, maskSample_or, maskSample_or,
            maskSample_or, effect.mask_drawnSample sampler draw other, Field.sample_mask,
            maskSample_idem]

end Effect

/-! One rule. -/

/-- How far readings have come that are so many draws apart. -/
structure Reading.Apart (shift : Int) (r other : Reading) : Prop where
  field : Resembles shift Field.mask r.field other.field
  draw : other.draw = r.draw + shift

namespace Reading

variable {s : Setting} {r other : Reading}

theorem mirrors_applyCall (apart : Apart shift r other) (call : Call) :
    Mirrors (Apart shift) (r.applyCall s call) (other.applyCall s call) := by
  have name : r.field.name = other.field.name := apart.field.field_eq Field.name fun _ => rfl
  have type : r.field.type = other.field.type := apart.field.field_eq Field.type fun _ => rfl
  unfold applyCall
  dsimp only
  cases find? call.name with
  | none =>
      rw [name]
      exact .error _
  | some rule =>
      dsimp only
      split
      · rw [name]
        exact .error _
      · rw [name, type, apart.draw]
        have applied : Resembles shift (Except.map Field.mask)
            (rule.effect.apply s.sampler s.now call.parameters r.draw r.field)
            (rule.effect.apply s.sampler s.now call.parameters (r.draw + shift) other.field) :=
          apart.field.draw
            (fun draw f => rule.effect.apply s.sampler s.now call.parameters draw f)
            (rule.effect.mask_apply call.parameters s.sampler s.now) r.draw
        refine ((Mirrors.of_resembles applied).mapError Failure.fault).bind fun f g also => ?_
        refine .ok ⟨also.map (Field.note _ _) (Field.mask_note _ _), ?_⟩
        dsimp only
        split <;> omega

/-- What an object adds to a field does not depend on the example that is there. -/
theorem mirrors_adjustments (adjustments : List Adjustment) {f g : Field}
    (resembles : Resembles shift Field.mask f g) :
    Mirrors (Resembles shift Field.mask) (adjustments.foldlM Adjustment.apply f)
      (adjustments.foldlM Adjustment.apply g) := by
  induction adjustments generalizing f g with
  | nil => exact .ok resembles
  | cons first rest induction =>
      rw [List.foldlM_cons, List.foldlM_cons]
      have applied : Resembles shift (Except.map Field.mask) (first.apply f) (first.apply g) :=
        resembles.draw (fun _ => first.apply) (fun _ _ => first.mask_apply) 0
      exact (Mirrors.of_resembles applied).bind fun _ _ also => induction also

theorem mirrors_applyCustom (apart : Apart shift r other) (rule : Custom) :
    Mirrors (Apart shift) (r.applyCustom rule) (other.applyCustom rule) := by
  refine ((mirrors_adjustments rule.adjustments apart.field).mapError Failure.fault).bind ?_
  intro f g also
  let noted (f : Field) : Field := { f with rules := f.rules ++ [.object rule.label] }
  have same : Resembles shift Field.mask (noted f) (noted g) :=
    also.map (g := noted) noted fun _ => rfl
  exact .ok ⟨same, apart.draw⟩

theorem mirrors_step (apart : Apart shift r other) (item : Item) :
    Mirrors (Apart shift) (r.step s item) (other.step s item) := by
  cases item with
  | token text =>
      rw [step, step]
      split
      · exact .ok apart
      · exact mirrors_applyCall apart _
  | parts parts =>
      rw [step, step]
      cases Call.ofParts? parts with
      | none => exact .error _
      | some call => exact mirrors_applyCall apart call
  | custom rule => exact mirrors_applyCustom apart rule
  | «foreign» value => exact .ok ⟨apart.field, apart.draw⟩

theorem apart_steps (apart : Apart shift r other) (items : List Item) :
    Apart shift (r.steps s items).1 (other.steps s items).1 ∧
      (r.steps s items).2 = (other.steps s items).2 := by
  induction items generalizing r other with
  | nil => exact ⟨apart, rfl⟩
  | cons item rest induction =>
      have mirrors := mirrors_step (s := s) apart item
      rw [steps, steps]
      generalize r.step s item = here at mirrors
      generalize other.step s item = there at mirrors
      cases mirrors with
      | ok also => exact induction also
      | error failure => exact ⟨apart, rfl⟩

end Reading

theorem apart_read (s : Setting) (name : String) (rules : Given) (draw : Int) :
    Reading.Apart shift (read s name rules draw).1 (read s name rules (draw + shift)).1 ∧
      (read s name rules draw).2 = (read s name rules (draw + shift)).2 := by
  have apart : Reading.Apart shift { field := { name }, draw }
      { field := { name }, draw := draw + shift } := ⟨.refl _, rfl⟩
  exact Reading.apart_steps apart rules.items

end Rule

/-! The example of a field that has none. -/

namespace Field

/-- An example is added from any draw on, and makes the same number of draws. -/
theorem mirrors_enrich (s : Sampler) {f g : Field} (resembles : Resembles shift mask f g)
    (draw : Int) :
    Mirrors (fun first second => Resembles shift mask first.1 second.1 ∧
      second.2 = first.2 + shift) (f.enrich s draw) (g.enrich s (draw + shift)) := by
  have samples : maskSample f.sample = maskSample g.sample := congrArg sample resembles.masked
  unfold enrich
  cases found : f.sample with
  | some example_ =>
      cases also : g.sample with
      | none =>
          rw [found, also] at samples
          cases samples
      | some other => exact .ok ⟨resembles, rfl⟩
  | none =>
      cases also : g.sample with
      | some other =>
          rw [found, also] at samples
          cases samples
      | none =>
          -- Without examples nothing is masked.
          have same : f = g := by
            rw [← f.mask_eq_self found, resembles.masked, g.mask_eq_self also]
          subst same
          dsimp only
          cases guessed : f.guess s with
          | error fault => exact .error fault
          | ok guess =>
              cases guess with
              | written value => exact .ok ⟨.refl _, rfl⟩
              | drawn value =>
                  refine .ok ⟨⟨?_, fun unmoved => ?_⟩, ?_⟩
                  · change mask (f.resample (sampleOf (value draw))) =
                      mask (f.resample (sampleOf (value (draw + shift))))
                    rw [mask_resample, mask_resample, sampleOf_drawn guessed, sampleOf_drawn guessed]
                    rfl
                  · rw [unmoved, Int.add_zero]
                  · dsimp only
                    omega

end Field
end RouteDocs
