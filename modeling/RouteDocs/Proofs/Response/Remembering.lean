import RouteDocs.Proofs.Action
import RouteDocs.Proofs.Response.Depth

/-!
Steps that remember schemas, set against the same steps where nothing is remembered. A
cache is sound if it holds nothing but the schemas that would be computed anyway, and
every step keeps it so.
-/

namespace RouteDocs

open RouteDocs.Action (after)

namespace ShapeCache

variable {κ : Type} [BEq κ] [LawfulBEq κ]

theorem find?_eq_lookup (cache : ShapeCache κ) (key : κ) :
    cache.find? key = cache.entries.lookup key := by
  obtain ⟨entries⟩ := cache
  unfold find?
  induction entries with
  | nil => rfl
  | cons entry rest induction =>
      obtain ⟨held, node⟩ := entry
      rw [List.find?_cons, List.lookup_cons, BEq.comm]
      cases key == held with
      | true => rfl
      | false => exact induction

theorem find?_put (cache : ShapeCache κ) (key other : κ) (node : Schema.Node) :
    (cache.put key node).find? other = if other == key then some node else cache.find? other := by
  rw [find?_eq_lookup, find?_eq_lookup]
  exact Keyed.lookup_put key other node cache.entries

end ShapeCache

namespace Response

open Schema (Node)
open Outcome (Approaches)

/-- A run remembers only what would be computed anyway. -/
def Sound (app : App) (run : Run) : Prop :=
  ∀ type node, run.shapes.find? type = some node → shape app type = .ok node

/-- From every sound run on, the step gives this and leaves a sound run. -/
def Gives (app : App) {α : Type} (step : Action α) (outcome : Outcome α) : Prop :=
  ∀ run, Sound app run → (after step run).1 = outcome ∧ Sound app (after step run).2

section

variable {app : App} {α β : Type}

theorem gives_pure (a : α) : Gives app (pure a) (pure a) := fun _ sound => ⟨rfl, sound⟩

theorem gives_throw (failure : Failure) :
    Gives app (throw failure : Action α) (throw failure) :=
  fun _ sound => ⟨rfl, sound⟩

theorem gives_lift (outcome : Outcome α) : Gives app (Action.lift outcome) outcome := by
  intro run sound
  rw [Action.after_lift]
  exact ⟨rfl, sound⟩

theorem Gives.bind {step : Action α} {outcome : Outcome α} {next : α → Action β}
    {other : α → Outcome β} (gives : Gives app step outcome)
    (follows : ∀ a, outcome = .ok a → Gives app (next a) (other a)) :
    Gives app (step >>= next) (outcome >>= other) := by
  intro run sound
  have first := gives run sound
  rw [Action.after_bind]
  cases ran : after step run with
  | mk result between =>
      rw [ran] at first
      obtain ⟨same, still⟩ := first
      subst same
      cases result with
      | error failure => exact ⟨rfl, still⟩
      | ok a => exact follows a rfl between still

theorem gives_sample (entity : ClassName) (count : Nat) :
    Gives app (sample app entity count) (samplesOf app entity count) := by
  unfold sample samplesOf
  cases Entity.factory? app entity with
  | none => exact gives_throw _
  | some factory =>
      intro run sound
      rw [Action.after_bind, Action.after_modify]
      exact gives_lift _ _ sound

theorem gives_firstSample (entity : ClassName) :
    Gives app (firstSample app entity) (firstOf app entity) := by
  refine (gives_sample entity 1).bind fun samples _ => ?_
  cases samples with
  | nil => exact gives_throw _
  | cons first rest => exact gives_pure first

theorem Sound.put {run : Run} {type : ClassName} {node : Node} (sound : Sound app run)
    (computed : shape app type = .ok node) :
    Sound app { run with shapes := run.shapes.put type node } := by
  intro other held found
  rw [ShapeCache.find?_put] at found
  split at found
  case isTrue same =>
    cases found
    rwa [eq_of_beq same]
  case isFalse => exact sound other held found

theorem after_shapeOf_known {type : ClassName} {compute : Action Node} {run : Run} {node : Node}
    (known : run.shapes.find? type = some node) :
    after (shapeOf type compute) run = (.ok node, run) := by
  unfold shapeOf ShapeCache.getOrCompute
  rw [Action.after_bind, Action.after_getShapes]
  dsimp only
  rw [known]
  rfl

theorem after_shapeOf_new {type : ClassName} {compute : Action Node} {run : Run}
    (new : run.shapes.find? type = none) :
    after (shapeOf type compute) run =
      match after compute { run with events := run.events ++ [.shapeComputed type.name] } with
      | (.ok node, between) =>
          (.ok node, { between with shapes := between.shapes.put type node })
      | (.error failure, between) => (.error failure, between) := by
  unfold shapeOf ShapeCache.getOrCompute
  rw [Action.after_bind, Action.after_getShapes]
  dsimp only
  rw [new, Action.after_bind, Action.after_bind, Action.after_report]
  dsimp only
  cases after compute { run with events := run.events ++ [.shapeComputed type.name] } with
  | mk result between => cases result <;> rfl

/-- A schema that is given was there already, or was computed and stored. -/
theorem after_shapeOf_ok {type : ClassName} {compute : Action Node} {run last : Run} {node : Node}
    (ran : after (shapeOf type compute) run = (.ok node, last)) :
    (run.shapes.find? type = some node ∧ last = run) ∨
      run.shapes.find? type = none ∧ ∃ between,
        after compute { run with events := run.events ++ [.shapeComputed type.name] } =
            (.ok node, between) ∧
          last = { between with shapes := between.shapes.put type node } := by
  cases found : run.shapes.find? type with
  | some known =>
      rw [after_shapeOf_known found] at ran
      cases ran
      exact .inl ⟨rfl, rfl⟩
  | none =>
      rw [after_shapeOf_new found] at ran
      cases computed : after compute
          { run with events := run.events ++ [.shapeComputed type.name] } with
      | mk result between =>
          rw [computed] at ran
          cases result with
          | error failure => cases ran
          | ok made =>
              cases ran
              exact .inr ⟨rfl, between, rfl, rfl⟩

theorem after_shapeOf_error {type : ClassName} {compute : Action Node} {run last : Run}
    {failure : Failure} (failed : after (shapeOf type compute) run = (.error failure, last)) :
    run.shapes.find? type = none ∧
      after compute { run with events := run.events ++ [.shapeComputed type.name] } =
        (.error failure, last) := by
  cases found : run.shapes.find? type with
  | some known =>
      rw [after_shapeOf_known found] at failed
      cases failed
  | none =>
      rw [after_shapeOf_new found] at failed
      cases computed : after compute
          { run with events := run.events ++ [.shapeComputed type.name] } with
      | mk result between =>
          rw [computed] at failed
          cases result with
          | error early =>
              cases failed
              exact ⟨rfl, rfl⟩
          | ok node => cases failed

/-! Nothing is remembered of classes that are nested too deeply, but some of what is nested in them
may be; from then on the resolver gets further than where nothing is remembered. -/

/-- From every sound run on, the step gives what one conversion gives, unless that one ends too
early, and then it may give what a deeper one does. -/
def Lies (app : App) {α : Type} (step : Action α) (low high : Outcome α) : Prop :=
  ∀ run, Sound app run →
    Approaches low (after step run).1 ∧ Approaches (after step run).1 high ∧
      Sound app (after step run).2

theorem Gives.lies {step : Action α} {outcome : Outcome α} (gives : Gives app step outcome) :
    Lies app step outcome outcome := by
  intro run sound
  obtain ⟨same, still⟩ := gives run sound
  rw [same]
  exact ⟨.refl _, .refl _, still⟩

theorem Lies.gives {step : Action α} {outcome : Outcome α} (lies : Lies app step outcome outcome) :
    Gives app step outcome := by
  intro run sound
  obtain ⟨below, above, still⟩ := lies run sound
  exact ⟨above.antisymm below, still⟩

theorem sound_of_empty {run : Run} (empty : run.shapes.entries = []) : Sound app run := by
  intro type node found
  rw [ShapeCache.find?_eq_lookup, empty] at found
  cases found

theorem Lies.approaches {step : Action α} {low high : Outcome α} (lies : Lies app step low high) :
    Approaches low high := by
  obtain ⟨below, above, _⟩ := lies {} (sound_of_empty rfl)
  exact below.trans above

theorem Lies.bind {step : Action α} {low high : Outcome α} {next : α → Action β}
    {lower higher : α → Outcome β} (lies : Lies app step low high)
    (follows : ∀ a, high = .ok a → Lies app (next a) (lower a) (higher a)) :
    Lies app (step >>= next) (low >>= lower) (high >>= higher) := by
  intro run sound
  have first := lies run sound
  rw [Action.after_bind]
  cases ran : after step run with
  | mk result between =>
      rw [ran] at first
      obtain ⟨below, above, still⟩ := first
      cases result with
      | error failure => exact ⟨below.bind_error, above.error_bind, still⟩
      | ok a =>
          have same := above.eq (Outcome.ends_ok a)
          obtain ⟨lower, higher, last⟩ := follows a same.symm between still
          rw [← same]
          refine ⟨?_, higher, last⟩
          rcases below with exhausts | same
          · rw [exhausts]
            exact .inl rfl
          · rw [same]
            exact lower

/-- It makes no difference whether a schema was there already. -/
theorem lies_shapeOf {type : ClassName} {compute : Action Node} {low : Outcome Node}
    (computes : Lies app compute low (shape app type)) :
    Lies app (shapeOf type compute) low (shape app type) := by
  intro run sound
  cases found : run.shapes.find? type with
  | some node =>
      rw [after_shapeOf_known found, ← sound type node found]
      exact ⟨computes.approaches, .refl _, sound⟩
  | none =>
      rw [after_shapeOf_new found]
      have computed := computes { run with events := run.events ++ [.shapeComputed type.name] }
        sound
      cases ran : after compute { run with events := run.events ++ [.shapeComputed type.name] } with
      | mk result between =>
          rw [ran] at computed
          obtain ⟨below, above, still⟩ := computed
          cases result with
          | error failure => exact ⟨below, above, still⟩
          | ok node => exact ⟨below, above, still.put (above.eq (Outcome.ends_ok node)).symm⟩

/-! Two conversions at once, the one to a given depth and the one that is deep enough. -/

def lying (app : App) : Node.Correspondence Action (ReaderT Bool Outcome) where
  rel step both := Lies app step (both false) (both true)
  rel_pure a := (gives_pure a).lies
  rel_throw failure := (gives_throw failure).lies
  rel_bind first follows := first.bind fun a _ => follows a

def choosing (deep : Bool) : Node.Correspondence (ReaderT Bool Outcome) Outcome where
  rel both outcome := both deep = outcome
  rel_pure _ := rfl
  rel_throw _ := rfl
  rel_bind same follows := by
    subst same
    exact congrArg _ (funext follows)

theorem lies_infer {convert : Convert} {low high : Option String → ClassName → Outcome Node}
    (name : Option String) (value : Value)
    (converts : ∀ name type, Lies app (convert name type) (low name type) (high name type)) :
    Lies app (Node.inferWith convert name value) (Node.inferWith low name value)
      (Node.inferWith high name value) := by
  let both : Option String → ClassName → ReaderT Bool Outcome Node := fun name type deep =>
    if deep then high name type else low name type
  have lies : Lies app (Node.inferWith convert name value) (Node.inferWith both name value false)
      (Node.inferWith both name value true) :=
    Node.inferWith_rel (lying app) name value fun type _ name => converts name type
  have lower : Node.inferWith both name value false = Node.inferWith low name value :=
    Node.inferWith_rel (choosing false) name value fun _ _ _ => rfl
  have higher : Node.inferWith both name value true = Node.inferWith high name value :=
    Node.inferWith_rel (choosing true) name value fun _ _ _ => rfl
  rwa [lower, higher] at lies

end

end Response
end RouteDocs
