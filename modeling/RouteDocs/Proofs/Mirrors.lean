import Mathlib.Data.List.Forall2
import RouteDocs.Proofs.Action
import RouteDocs.Proofs.Outcome

/-!
Two runs that do the same from different draws on. What the draws are may show in examples, and
nowhere else: both runs fail alike, make as many draws, and give results that are the same when
their examples are masked. Where no draw lies between them, their results are equal.
-/

namespace RouteDocs

variable {α β γ δ : Type} {shift : Int}

/-- Two things from runs that are so many draws apart. -/
structure Resembles (shift : Int) (mask : α → β) (a b : α) : Prop where
  masked : mask a = mask b
  equal : shift = 0 → a = b

namespace Resembles

variable {mask : α → β} {cover : γ → δ}

theorem refl (a : α) : Resembles shift mask a a := ⟨rfl, fun _ => rfl⟩

/-- What is made of such things without a look behind the mask. -/
theorem map {a b : α} (resembles : Resembles shift mask a b) (f : α → γ) {g : β → δ}
    (covers : ∀ a, cover (f a) = g (mask a)) : Resembles shift cover (f a) (f b) where
  masked := by rw [covers, covers, resembles.masked]
  equal unmoved := by rw [resembles.equal unmoved]

/-- What is made of them with the draws that are next. -/
theorem draw {a b : α} {mask : α → α} (resembles : Resembles shift mask a b)
    (f : Int → α → γ)
    (covers : ∀ draw other a, cover (f draw a) = cover (f other (mask a))) (next : Int) :
    Resembles shift cover (f next a) (f (next + shift) b) where
  masked := by rw [covers next next a, resembles.masked, ← covers (next + shift) next b]
  equal unmoved := by rw [resembles.equal unmoved, unmoved, Int.add_zero]

theorem of_forall₂ {first second : List α}
    (each : List.Forall₂ (Resembles shift mask) first second) :
    Resembles shift (List.map mask) first second := by
  induction each with
  | nil => exact .refl []
  | cons here _ rest =>
      refine ⟨?_, fun unmoved => ?_⟩
      · rw [List.map_cons, List.map_cons, here.masked, rest.masked]
      · rw [here.equal unmoved, rest.equal unmoved]

end Resembles

namespace Outcome

variable {ε : Type}

/-- Both succeed with results that are related, or both fail alike. -/
inductive Mirrors (related : α → β → Prop) : Except ε α → Except ε β → Prop
  | ok {a : α} {b : β} (same : related a b) : Mirrors related (.ok a) (.ok b)
  | error (failure : ε) : Mirrors related (.error failure) (.error failure)

namespace Mirrors

variable {related : α → β → Prop} {after : γ → δ → Prop}

theorem mono {first : Except ε α} {second : Except ε β} {wider : α → β → Prop}
    (mirrors : Mirrors related first second) (within : ∀ a b, related a b → wider a b) :
    Mirrors wider first second := by
  cases mirrors with
  | ok same => exact .ok (within _ _ same)
  | error failure => exact .error failure

theorem refl {first : Except ε α} {related : α → α → Prop} (reflexive : ∀ a, related a a) :
    Mirrors related first first := by
  cases first with
  | ok a => exact .ok (reflexive a)
  | error failure => exact .error failure

theorem bind {first : Except ε α} {second : Except ε β} {next : α → Except ε γ}
    {follow : β → Except ε δ} (mirrors : Mirrors related first second)
    (follows : ∀ a b, related a b → Mirrors after (next a) (follow b)) :
    Mirrors after (first >>= next) (second >>= follow) := by
  cases mirrors with
  | ok same => exact follows _ _ same
  | error failure => exact .error failure

theorem mapError {φ : Type} {first : Except ε α} {second : Except ε β} (f : ε → φ)
    (mirrors : Mirrors related first second) :
    Mirrors related (first.mapError f) (second.mapError f) := by
  cases mirrors with
  | ok same => exact .ok same
  | error failure => exact .error (f failure)

theorem of_resembles {mask : α → β} {first second : Except ε α}
    (resembles : Resembles shift (Except.map mask) first second) :
    Mirrors (Resembles shift mask) first second := by
  have masked := resembles.masked
  cases first with
  | error failure =>
      cases second with
      | error other =>
          cases masked
          exact .error failure
      | ok b => cases masked
  | ok a =>
      cases second with
      | error other => cases masked
      | ok b => exact .ok ⟨Except.ok.inj masked, fun unmoved => Except.ok.inj (resembles.equal unmoved)⟩

theorem eq {first second : Except ε α} (mirrors : Mirrors Eq first second) : first = second := by
  cases mirrors with
  | ok same => rw [same]
  | error failure => rfl

end Mirrors
end Outcome

/-- The runs know the same schemas, and their next draws are so far apart. -/
structure Run.Apart (shift : Int) (run other : Run) : Prop where
  draw : other.draw = run.draw + shift
  shapes : other.shapes = run.shapes

namespace Action

/-- From runs that are apart, the steps have results that are related, or fail alike, and leave the
runs as far apart. -/
def Mirrors (shift : Int) (related : α → β → Prop) (step : Action α) (other : Action β) : Prop :=
  ∀ run rival, run.Apart shift rival →
    Outcome.Mirrors related (after step run).1 (after other rival).1 ∧
      (after step run).2.Apart shift (after other rival).2

variable {related : α → β → Prop} {later : γ → δ → Prop}

theorem mirrors_pure {a : α} {b : β} (same : related a b) :
    Mirrors shift related (pure a) (pure b) := fun _ _ apart => ⟨.ok same, apart⟩

theorem mirrors_throw (failure : Failure) :
    Mirrors shift related (throw failure) (throw failure) := fun _ _ apart => ⟨.error failure, apart⟩

theorem mirrors_lift {first : Outcome α} {second : Outcome β}
    (mirrors : Outcome.Mirrors related first second) :
    Mirrors shift related (lift first) (lift second) := by
  intro run rival apart
  rw [after_lift, after_lift]
  exact ⟨mirrors, apart⟩

theorem mirrors_liftFault {first : Except Fault α} {second : Except Fault β}
    (mirrors : Outcome.Mirrors related first second) :
    Mirrors shift related (liftFault first) (liftFault second) :=
  mirrors_lift (mirrors.mapError Failure.fault)

theorem mirrors_modify {change other : Run → Run}
    (keeps : ∀ run rival, run.Apart shift rival → (change run).Apart shift (other rival)) :
    Mirrors shift Eq (modifyThe Run change : Action Unit) (modifyThe Run other) :=
  fun run rival apart => ⟨.ok rfl, keeps run rival apart⟩

theorem mirrors_report (event other : Event) : Mirrors shift Eq (report event) (report other) :=
  fun _ _ apart => ⟨.ok rfl, apart.draw, apart.shapes⟩

theorem mirrors_getRun : Mirrors shift (Run.Apart shift) (getThe Run : Action Run) (getThe Run) :=
  fun _ _ apart => ⟨.ok apart, apart⟩

theorem Mirrors.mono {step : Action α} {other : Action β} {wider : α → β → Prop}
    (mirrors : Mirrors shift related step other) (within : ∀ a b, related a b → wider a b) :
    Mirrors shift wider step other := by
  intro run rival apart
  obtain ⟨alike, still⟩ := mirrors run rival apart
  exact ⟨alike.mono within, still⟩

theorem Mirrors.bind_ran {step : Action α} {other : Action β} {next : α → Action γ}
    {follow : β → Action δ} (first : Mirrors shift related step other)
    (follows : ∀ a b run last, after step run = (.ok a, last) → related a b →
      Mirrors shift later (next a) (follow b)) :
    Mirrors shift later (step >>= next) (other >>= follow) := by
  intro run rival apart
  have mirrors := first run rival apart
  rw [after_bind, after_bind]
  cases ran : after step run with
  | mk result between =>
      cases also : after other rival with
      | mk outcome middle =>
          rw [ran, also] at mirrors
          obtain ⟨alike, still⟩ := mirrors
          cases alike with
          | ok same => exact follows _ _ run between ran same between middle still
          | error failure => exact ⟨.error failure, still⟩

theorem Mirrors.bind {step : Action α} {other : Action β} {next : α → Action γ}
    {follow : β → Action δ} (first : Mirrors shift related step other)
    (follows : ∀ a b, related a b → Mirrors shift later (next a) (follow b)) :
    Mirrors shift later (step >>= next) (other >>= follow) :=
  first.bind_ran fun a b _ _ _ => follows a b

theorem Mirrors.bind_eq {step : Action α} {next : α → Action γ} {follow : α → Action δ}
    (first : Mirrors shift Eq step step)
    (follows : ∀ a, Mirrors shift later (next a) (follow a)) :
    Mirrors shift later (step >>= next) (step >>= follow) :=
  first.bind fun a _ same => same ▸ follows a

theorem mirrors_mapM {step : α → Action β} {rival : α → Action γ} {related : β → γ → Prop}
    (each : ∀ a, Mirrors shift related (step a) (rival a)) (items : List α) :
    Mirrors shift (List.Forall₂ related) (items.mapM step) (items.mapM rival) := by
  induction items with
  | nil => exact mirrors_pure .nil
  | cons head tail induction =>
      rw [List.mapM_cons, List.mapM_cons]
      exact (each head).bind fun b c first => induction.bind fun bs cs rest =>
        mirrors_pure (.cons first rest)

theorem mirrors_foldlM {related : β → β → Prop} {step : β → α → Action β}
    (each : ∀ b c a, related b c → Mirrors shift related (step b a) (step c a)) (items : List α)
    {start other : β} (same : related start other) :
    Mirrors shift related (items.foldlM step start) (items.foldlM step other) := by
  induction items generalizing start other with
  | nil => exact mirrors_pure same
  | cons head tail induction =>
      rw [List.foldlM_cons, List.foldlM_cons]
      exact (each start other head same).bind fun b c also => induction also

theorem mirrors_getOrCompute {key : ClassName} {compute : Action Schema.Node}
    (computes : Mirrors shift Eq compute compute) :
    Mirrors shift Eq (ShapeCache.getOrCompute key compute) (ShapeCache.getOrCompute key compute) := by
  have asks : Mirrors shift Eq (getThe (ShapeCache ClassName) : Action (ShapeCache ClassName))
      (getThe (ShapeCache ClassName)) :=
    fun _ _ apart => ⟨.ok apart.shapes.symm, apart⟩
  have stores (node : Schema.Node) : Mirrors shift Eq
      (modifyThe (ShapeCache ClassName) fun cache => cache.put key node : Action PUnit)
      (modifyThe (ShapeCache ClassName) fun cache => cache.put key node) :=
    fun _ _ apart => ⟨.ok rfl, apart.draw, congrArg (·.put key node) apart.shapes⟩
  unfold ShapeCache.getOrCompute
  refine asks.bind_eq fun cache => ?_
  cases cache.find? key with
  | some node => exact mirrors_pure rfl
  | none => exact computes.bind_eq fun node => (stores node).bind_eq fun _ => mirrors_pure rfl

end Action
end RouteDocs
