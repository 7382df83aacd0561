import RouteDocs.Proofs.Rule.Additions

/-!
Bounds after a rule that gives one. The bound is the rule's own. Whether it is excluded is told by
some rules; after the others the flag is the one that was there.
-/

namespace RouteDocs.Rule

def boundNames : List String :=
  ["size", "between", "min", "max", "gt", "gte", "lt", "lte", "digits", "digits_between",
    "min_digits", "max_digits"]

/-- Rules that tell whether their bounds are excluded. -/
def flagNames : List String :=
  ["between", "min", "max", "gt", "gte", "lt", "lte"]

namespace Limits

variable {limits : Limits}

/-! Limits over bounds that are there, and over none. -/

theorem min_onto (given : limits.min.isSome = true) (b : Bounds) :
    (limits.onto b).min = (limits.onto {}).min ∧
      ((limits.onto b).exclusiveMin = (limits.onto {}).exclusiveMin ↔
        limits.minExclusive.isSome = true ∨ b.exclusiveMin = false) := by
  obtain ⟨value, given⟩ := Option.isSome_iff_exists.mp given
  cases flag : limits.minExclusive <;> simp [onto, given, flag]

theorem max_onto (given : limits.max.isSome = true) (b : Bounds) :
    (limits.onto b).max = (limits.onto {}).max ∧
      ((limits.onto b).exclusiveMax = (limits.onto {}).exclusiveMax ↔
        limits.maxExclusive.isSome = true ∨ b.exclusiveMax = false) := by
  obtain ⟨value, given⟩ := Option.isSome_iff_exists.mp given
  cases flag : limits.maxExclusive <;> simp [onto, given, flag]

end Limits

namespace Effect

/-- A rule that fills in a bound goes by the bound that was there. -/
def fills : Effect → Bool
  | filled => true
  | _ => false

def givesFlags : Effect → Bool
  | between | lower _ | upper _ => true
  | _ => false

variable {effect : Effect} {parameters : List String} {limits : Limits}

theorem flags_of_limits (limited : effect.limits parameters = .ok limits) :
    limits.minExclusive.isSome = (effect.givesFlags && limits.min.isSome) ∧
      limits.maxExclusive.isSome = (effect.givesFlags && limits.max.isSome) := by
  cases effect with
  | between | lower exclusive | upper exclusive =>
      cases limited
      simp [givesFlags, Limits.low, Limits.high]
  | digits | digitsBetween | minDigits | maxDigits =>
      obtain ⟨low, high⟩ := flags_of_digitLimits limited
      simp [givesFlags, low, high]
  | _ =>
      cases limited
      exact ⟨rfl, rfl⟩

end Effect

theorem effect_of_boundNames {name : String} (bounding : name ∈ boundNames) :
    ∃ rule, find? name = some rule ∧ rule.effect.fills = false ∧
      (rule.effect.givesFlags = true ↔ name ∈ flagNames) := by
  have all : (boundNames.all fun name => (find? name).any fun rule =>
      !rule.effect.fills && rule.effect.givesFlags == decide (name ∈ flagNames)) = true := by
    decide +kernel
  have here := List.all_eq_true.mp all name bounding
  obtain ⟨rule, known, told⟩ := (Option.any_eq_true _ _).mp here
  simp only [Bool.and_eq_true, Bool.not_eq_true', beq_iff_eq] at told
  exact ⟨rule, known, told.1, by rw [told.2, decide_eq_true_iff]⟩

namespace Reading

variable {s : Setting} {r after : Reading} {call : Call}

/-- The limits of a rule depend on nothing that was read before it. -/
theorem limits_of_boundNames (bounding : call.name ∈ boundNames)
    (applied : r.applyCall s call = .ok after) :
    ∃ limits : Limits, (∀ other last, Reading.applyCall s other call = .ok last →
        last.field.bounds = limits.onto other.field.bounds) ∧
      limits.minExclusive.isSome = (decide (call.name ∈ flagNames) && limits.min.isSome) ∧
      limits.maxExclusive.isSome = (decide (call.name ∈ flagNames) && limits.max.isSome) := by
  obtain ⟨rule, known, gives, flags⟩ := effect_of_boundNames bounding
  have differs : rule.effect ≠ .filled := by
    intro fills
    rw [fills] at gives
    cases gives
  obtain ⟨found, same, bounded⟩ := bounds_of_applyCall applied
  cases known.symm.trans same
  rw [Effect.bounds_eq differs] at bounded
  obtain ⟨limits, limited, _⟩ := Outcome.ok_of_map bounded
  have told := Effect.flags_of_limits limited
  have named : rule.effect.givesFlags = decide (call.name ∈ flagNames) := by
    rw [Bool.eq_iff_iff, flags, decide_eq_true_iff]
  rw [named] at told
  refine ⟨limits, fun other last applied => ?_, told⟩
  obtain ⟨found, same, bounded⟩ := bounds_of_applyCall applied
  cases known.symm.trans same
  rw [Effect.bounds_eq differs, limited] at bounded
  exact (Except.ok.inj bounded).symm

end Reading

/-- A rule that gives a bound replaces the former one. It replaces the flag, too, if it gives one;
otherwise the flag is that of a bound which is there no more. -/
theorem bounds_of_last_rule {s : Setting} {name : String} {draw : Int} {rules : List Given}
    {rule : Given} {call : Call} {after : Reading}
    (stated : ∀ given ∈ rules ++ [rule], Stated given) (single : rule.calls = [call])
    (bounding : call.name ∈ boundNames)
    (succeeds : read s name (.list (rules ++ [rule])) draw = (after, none)) :
    ∃ before alone, read s name (.list rules) draw = (before, none) ∧
      read s name rule draw = (alone, none) ∧
      (alone.field.bounds.min.isSome = true →
        after.field.bounds.min = alone.field.bounds.min ∧
          (after.field.bounds.exclusiveMin = alone.field.bounds.exclusiveMin ↔
            call.name ∈ flagNames ∨ before.field.bounds.exclusiveMin = false)) ∧
      (alone.field.bounds.max.isSome = true →
        after.field.bounds.max = alone.field.bounds.max ∧
          (after.field.bounds.exclusiveMax = alone.field.bounds.exclusiveMax ↔
            call.name ∈ flagNames ∨ before.field.bounds.exclusiveMax = false)) := by
  obtain ⟨before, front, last⟩ := read_append_iff.mp succeeds
  have items : (Given.list [rule]).items = rule.items := by simp [Given.items, itemsOf]
  rw [items] at last
  have states := (stated rule (by simp)).of_mem
  obtain ⟨alone, first⟩ := Reading.steps_anywhere states last { field := { name }, draw }
  refine ⟨before, alone, front, first, ?_⟩
  have called : rule.items.filterMap Item.call? = [call] := single
  have lastly := Reading.applyCalls_of_steps states last
  have firstly := Reading.applyCalls_of_steps states first
  rw [called, Reading.applyCalls_singleton] at lastly firstly
  -- Both readings lay the same limits over what was there, the second one over nothing.
  obtain ⟨limits, everywhere, low, high⟩ := Reading.limits_of_boundNames bounding lastly
  rw [everywhere _ _ lastly, everywhere _ _ firstly]
  constructor
  · intro given
    have own : limits.min.isSome = true := by simpa [Limits.onto] using given
    have told := limits.min_onto own before.field.bounds
    rwa [low, own, Bool.and_true, decide_eq_true_iff] at told
  · intro given
    have own : limits.max.isSome = true := by simpa [Limits.onto] using given
    have told := limits.max_onto own before.field.bounds
    rwa [high, own, Bool.and_true, decide_eq_true_iff] at told

theorem bounds_of_last_between :
    ∃ before alone after,
      read plainSetting "n" (.list [.text "gt:3|lt:20"]) 0 = (before, none) ∧
        read plainSetting "n" (.parts [.text "between", .int 5, .int 8]) 0 = (alone, none) ∧
        read plainSetting "n" (.list [.text "gt:3|lt:20",
          .parts [.text "between", .int 5, .int 8]]) 0 = (after, none) ∧
        before.field.bounds.exclusiveMin = true ∧
        after.field.bounds.min = alone.field.bounds.min ∧
        after.field.bounds.exclusiveMin = alone.field.bounds.exclusiveMin := by
  have succeeds : (read plainSetting "n" (.list ([.text "gt:3|lt:20"] ++
      [.parts [.text "between", .int 5, .int 8]])) 0).2 = none :=
    Option.isNone_iff_eq_none.mp (by decide +kernel)
  have stated : ∀ given ∈ [Given.text "gt:3|lt:20"] ++
      [.parts [.text "between", .int 5, .int 8]], Stated given := by
    simp only [List.cons_append, List.nil_append, List.forall_mem_cons]
    exact ⟨.text _, .parts _, nofun⟩
  obtain ⟨before, alone, front, single, low, _⟩ :=
    @bounds_of_last_rule plainSetting "n" 0 _ _ ⟨"between", ["5", "8"]⟩ _ stated
      (by decide +kernel) (by decide) (read_eq_of_none succeeds)
  have given : (read plainSetting "n" (.parts [.text "between", .int 5, .int 8])
      0).1.field.bounds.min.isSome = true := by decide +kernel
  have excluded : (read plainSetting "n" (.list [.text "gt:3|lt:20"])
      0).1.field.bounds.exclusiveMin = true := by decide +kernel
  rw [single] at given
  rw [front] at excluded
  obtain ⟨same, flag⟩ := low given
  exact ⟨before, alone, _, front, single, read_eq_of_none succeeds, excluded, same,
    flag.mpr (.inl (by decide))⟩

def sizeAfterGt : Given :=
  .list [.text "gt:3", .text "size:5"]

/-- The lower bound of `size` is still excluded where `gt` came before it. -/
theorem size_after_gt_excluded :
    (read plainSetting "n" sizeAfterGt 0).2 = none ∧
      (read plainSetting "n" (.text "size:5") 0).2 = none ∧
      (read plainSetting "n" (.text "size:5") 0).1.field.bounds =
        { min := some (.int 5), max := some (.int 5) } ∧
      (read plainSetting "n" sizeAfterGt 0).1.field.bounds =
        { min := some (.int 5), max := some (.int 5), exclusiveMin := true } ∧
      ((read plainSetting "n" sizeAfterGt 0).1.field.bounds.min,
          (read plainSetting "n" sizeAfterGt 0).1.field.bounds.exclusiveMin) ≠
        ((read plainSetting "n" (.text "size:5") 0).1.field.bounds.min,
          (read plainSetting "n" (.text "size:5") 0).1.field.bounds.exclusiveMin) := by
  have alone : (read plainSetting "n" (.text "size:5") 0).1.field.bounds =
      { min := some (.int 5), max := some (.int 5) } := by decide +kernel
  have after : (read plainSetting "n" sizeAfterGt 0).1.field.bounds =
      { min := some (.int 5), max := some (.int 5), exclusiveMin := true } := by decide +kernel
  refine ⟨Option.isNone_iff_eq_none.mp (by decide +kernel),
    Option.isNone_iff_eq_none.mp (by decide +kernel), alone, after, ?_⟩
  rw [alone, after]
  decide

end RouteDocs.Rule
