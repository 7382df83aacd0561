import RouteDocs.Proofs.Rule.Call

/-!
What a rule says about bounds, whatever the bounds were. A limit that it gives replaces the former
one; an exclusive bound is only opened or closed by the rules that say so.
-/

namespace RouteDocs.Rule

structure Limits where
  min : Option Number := none
  max : Option Number := none
  /-- Whether the lower bound is excluded, where the rule tells. -/
  minExclusive : Option Bool := none
  maxExclusive : Option Bool := none

def Limits.onto (limits : Limits) (b : Bounds) : Bounds where
  min := limits.min.or b.min
  max := limits.max.or b.max
  exclusiveMin := limits.minExclusive.getD b.exclusiveMin
  exclusiveMax := limits.maxExclusive.getD b.exclusiveMax

/-- A lower bound together with its flag. -/
def Limits.low (exclusive : Bool) (value : Option Number) : Limits where
  min := value
  minExclusive := value.map fun _ => exclusive

def Limits.high (exclusive : Bool) (value : Option Number) : Limits where
  max := value
  maxExclusive := value.map fun _ => exclusive

def digitLimit (limit : Int → Except Fault Number) : Option Number → Except Fault (Option Number)
  | none => .ok none
  | some digits => do
      let length ← integerPart digits
      let value ← limit length
      pure (some value)

def digitLimits (low high : Option Number) : Except Fault Limits := do
  let min ← digitLimit (fun length => .ok (.int (leastWithDigits length))) low
  let max ← digitLimit greatestWithDigits high
  pure { min, max }

namespace Effect

/-- The limits that a rule gives. One that fills in a lower bound goes by the bound that is there,
and gives none of its own. -/
def limits (parameters : List String) : Effect → Except Fault Limits
  | size => .ok { min := number? parameters 0, max := number? parameters 0 }
  | between =>
      .ok
        { min := number? parameters 0, minExclusive := (number? parameters 0).map fun _ => false
          max := number? parameters 1, maxExclusive := (number? parameters 1).map fun _ => false }
  | lower exclusive => .ok (.low exclusive (number? parameters 0))
  | upper exclusive => .ok (.high exclusive (number? parameters 0))
  | digits => digitLimits (number? parameters 0) (number? parameters 0)
  | digitsBetween => digitLimits (number? parameters 0) (number? parameters 1)
  | minDigits => digitLimits (number? parameters 0) none
  | maxDigits => digitLimits none (number? parameters 0)
  | _ => .ok {}

/-! Numbers of digits say nothing about flags. -/

theorem flags_of_digitLimits {low high : Option Number} {limits : Limits}
    (limited : digitLimits low high = .ok limits) :
    limits.minExclusive = none ∧ limits.maxExclusive = none := by
  rw [digitLimits] at limited
  obtain ⟨min, _, limited⟩ := Outcome.ok_of_bind limited
  obtain ⟨max, _, limited⟩ := Outcome.ok_of_bind limited
  cases limited
  exact ⟨rfl, rfl⟩

theorem setDigits_none (high : Option Number) (b : Bounds) :
    setDigits none high b =
      (digitLimit greatestWithDigits high).map fun max => { b with max := max.or b.max } := by
  unfold setDigits digitLimit
  cases high with
  | none => rfl
  | some high =>
      dsimp only
      cases integerPart high with
      | error fault => rfl
      | ok length =>
          dsimp only [bind, Except.bind, pure, Except.pure]
          cases greatestWithDigits length <;> rfl

theorem setDigits_eq (low high : Option Number) (b : Bounds) :
    setDigits low high b = (digitLimits low high).map fun limits => limits.onto b := by
  cases low with
  | none =>
      rw [setDigits_none, digitLimits]
      cases digitLimit greatestWithDigits high <;> rfl
  | some low =>
      have first : setDigits (some low) high b = integerPart low >>= fun length =>
          setDigits none high { b with min := some (.int (leastWithDigits length)) } := rfl
      rw [first, digitLimits, digitLimit]
      cases integerPart low with
      | error fault => rfl
      | ok length =>
          dsimp only [bind, Except.bind, pure, Except.pure]
          rw [setDigits_none]
          cases digitLimit greatestWithDigits high <;> rfl

theorem bounds_eq {effect : Effect} (other : effect ≠ filled) (parameters : List String)
    (b : Bounds) :
    effect.bounds parameters b = (effect.limits parameters).map fun limits => limits.onto b := by
  cases effect with
  | filled => exact absurd rfl other
  | digits => exact setDigits_eq _ _ b
  | digitsBetween => exact setDigits_eq _ _ b
  | minDigits => exact setDigits_eq (number? parameters 0) none b
  | maxDigits => exact setDigits_eq none (number? parameters 0) b
  | size =>
      rw [bounds, limits]
      cases number? parameters 0 <;> rfl
  | between =>
      rw [bounds, limits]
      cases number? parameters 0 <;> cases number? parameters 1 <;> rfl
  | lower exclusive =>
      rw [bounds, limits]
      cases number? parameters 0 <;> rfl
  | upper exclusive =>
      rw [bounds, limits]
      cases number? parameters 0 <;> rfl
  | _ => rfl

theorem bounds_cases {effect : Effect} {parameters : List String} {b after : Bounds}
    (given : effect.bounds parameters b = .ok after) :
    (effect = filled ∧ after = fillBounds b) ∨
      ∃ limits, effect.limits parameters = .ok limits ∧ after = limits.onto b := by
  by_cases fills : effect = filled
  · subst fills
    cases given
    exact .inl ⟨rfl, rfl⟩
  · rw [bounds_eq fills] at given
    obtain ⟨limits, limited, rfl⟩ := Outcome.ok_of_map given
    exact .inr ⟨limits, limited, rfl⟩

/-- Whether bounds can be given depends on the parameters alone. -/
theorem bounds_anywhere {effect : Effect} {parameters : List String} {b after : Bounds}
    (given : effect.bounds parameters b = .ok after) (other : Bounds) :
    ∃ made, effect.bounds parameters other = .ok made := by
  by_cases fills : effect = filled
  · subst fills
    exact ⟨_, rfl⟩
  · rw [bounds_eq fills] at given ⊢
    obtain ⟨limits, limited, _⟩ := Outcome.ok_of_map given
    rw [limited]
    exact ⟨_, rfl⟩

theorem min_of_fillBounds (b : Bounds) : (fillBounds b).min.isSome = true := by
  unfold fillBounds
  split
  · rfl
  · rename_i low found
    split <;> simp [found]

theorem max_of_fillBounds (b : Bounds) : (fillBounds b).max = b.max := by
  unfold fillBounds
  split
  · rfl
  · split <;> rfl

theorem min_isSome_of_bounds {effect : Effect} {parameters : List String} {b after : Bounds}
    (given : effect.bounds parameters b = .ok after) (there : b.min.isSome = true) :
    after.min.isSome = true := by
  rcases bounds_cases given with ⟨_, rfl⟩ | ⟨limits, _, rfl⟩
  · exact min_of_fillBounds b
  · simp [Limits.onto, there]

theorem max_isSome_of_bounds {effect : Effect} {parameters : List String} {b after : Bounds}
    (given : effect.bounds parameters b = .ok after) (there : b.max.isSome = true) :
    after.max.isSome = true := by
  rcases bounds_cases given with ⟨_, rfl⟩ | ⟨limits, _, rfl⟩
  · rw [max_of_fillBounds, there]
  · simp [Limits.onto, there]

end Effect
end RouteDocs.Rule
