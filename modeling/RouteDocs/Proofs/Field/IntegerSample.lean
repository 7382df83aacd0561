import RouteDocs.Field.Example
import RouteDocs.Proofs.Field.Bounds
import RouteDocs.Proofs.Field.Drawn
import RouteDocs.Proofs.Number.Rounding

/-!
Examples of integer fields. They come from between two ends, and keep to the bounds of the field
whatever is drawn exactly if both ends do.
-/

namespace RouteDocs

/-! Numbers that are moved by a few units. -/

/-- Below the numbers that have no fraction. -/
def Double.IsModerate : Double → Prop
  | finite _ mantissa exponent => mantissa < 2 ^ 53 ∧ -1074 ≤ exponent ∧ exponent ≤ 0
  | _ => False

instance : DecidablePred Double.IsModerate := fun x =>
  match x with
  | .finite .. => inferInstanceAs (Decidable (_ ∧ _))
  | .nan => inferInstanceAs (Decidable False)
  | .infinity _ => inferInstanceAs (Decidable False)

theorem Double.IsModerate.isFinite {x : Double} (moderate : x.IsModerate) : x.IsFinite := by
  cases x with
  | finite negative mantissa exponent =>
      exact ⟨moderate.1, moderate.2.1, moderate.2.2.trans (by norm_num)⟩
  | nan => exact moderate.elim
  | infinity negative => exact moderate.elim

theorem Double.IsModerate.abs_value_lt {x : Double} (moderate : x.IsModerate) :
    |x.value| < topUnit / 2 := by
  obtain ⟨negative, mantissa, exponent, rfl⟩ := moderate.isFinite.exists_eq
  obtain ⟨bits, _, low⟩ := moderate
  have bits : (mantissa : ℚ) < 2 ^ 53 := by exact_mod_cast bits
  have power : (2 : ℚ) ^ exponent ≤ 1 := zpow_le_one_of_nonpos₀ (by norm_num) low
  have top : (2 : ℚ) ^ 54 ≤ topUnit := two_pow_le_topUnit (by norm_num)
  calc
    |(finite negative mantissa exponent).value| = mantissa * 2 ^ exponent :=
      abs_value_finite negative mantissa exponent
    _ ≤ mantissa * 1 := mul_le_mul_of_nonneg_left power (Nat.cast_nonneg mantissa)
    _ < 2 ^ 53 := by rwa [mul_one]
    _ ≤ topUnit / 2 := by
      rwa [le_div_iff₀ (by norm_num), ← pow_succ]

namespace Field

theorem shiftNumber_isFinite {x : Number} (finite : x.IsFinite) {step : Int}
    (moderate : ((Double.ofInt? step).getD .zero).IsModerate) : (shiftNumber x step).IsFinite := by
  cases x with
  | int n => trivial
  | real x => exact Double.add_isFinite finite moderate.isFinite moderate.abs_value_lt

/-! The ends between which integers are drawn. -/

def lowest (b : Bounds) : Number :=
  let low := b.min.getD (.int 0)
  if b.exclusiveMin then shiftNumber low 1 else low

/-- The upper end, which may be below the lower one. -/
def highest (b : Bounds) : Number :=
  let low := b.min.getD (.int 0)
  let high := b.max.getD (shiftNumber (if low.lt (.int 0) then .int 0 else low) 100)
  if b.exclusiveMax then shiftNumber high (-1) else high

theorem exampleRange_eq (b : Bounds) :
    exampleRange b = (lowest b, if (highest b).lt (lowest b) then lowest b else highest b) :=
  rfl

def firstDraw (b : Bounds) : Int :=
  towardsZero (exampleRange b).1.value

def lastDraw (b : Bounds) : Int :=
  towardsZero (exampleRange b).2.value

variable {b : Bounds}

theorem isFinite_getD_min (finite : b.IsFinite) : (b.min.getD (.int 0)).IsFinite := by
  cases given : b.min with
  | none => trivial
  | some low => exact finite.low low given

theorem isFinite_lowest (finite : b.IsFinite) : (lowest b).IsFinite := by
  unfold lowest
  dsimp only
  split
  · exact shiftNumber_isFinite (isFinite_getD_min finite) (by decide)
  · exact isFinite_getD_min finite

theorem isFinite_highest (finite : b.IsFinite) : (highest b).IsFinite := by
  have base : (if (b.min.getD (.int 0)).lt (.int 0) then .int 0
      else b.min.getD (.int 0)).IsFinite := by
    split
    · trivial
    · exact isFinite_getD_min finite
  have high : (b.max.getD (shiftNumber (if (b.min.getD (.int 0)).lt (.int 0) then .int 0
      else b.min.getD (.int 0)) 100)).IsFinite := by
    cases given : b.max with
    | some high => exact finite.high high given
    | none => exact shiftNumber_isFinite base (by decide)
  unfold highest
  dsimp only
  split
  · exact shiftNumber_isFinite high (by decide)
  · exact high

theorem value_range (finite : b.IsFinite) :
    (exampleRange b).2.value = max (lowest b).value (highest b).value := by
  rw [exampleRange_eq]
  dsimp only
  split
  · rename_i crossed
    rw [Number.lt_iff (isFinite_highest finite) (isFinite_lowest finite)] at crossed
    exact (max_eq_left crossed.le).symm
  · rename_i ordered
    rw [Number.lt_iff (isFinite_highest finite) (isFinite_lowest finite), not_lt] at ordered
    exact (max_eq_right ordered).symm

theorem isFinite_range (finite : b.IsFinite) :
    (exampleRange b).1.IsFinite ∧ (exampleRange b).2.IsFinite := by
  rw [exampleRange_eq]
  dsimp only
  split
  · exact ⟨isFinite_lowest finite, isFinite_lowest finite⟩
  · exact ⟨isFinite_lowest finite, isFinite_highest finite⟩

theorem lastDraw_eq (finite : b.IsFinite) :
    lastDraw b = towardsZero (max (lowest b).value (highest b).value) := by
  rw [lastDraw, value_range finite]

theorem firstDraw_le_lastDraw (finite : b.IsFinite) : firstDraw b ≤ lastDraw b := by
  rw [lastDraw_eq finite]
  exact towardsZero_mono (le_max_left _ _)

theorem integerGuess_eq (s : Sampler) (b : Bounds) :
    integerGuess s b = (do
      let low ← Rule.integerPart (exampleRange b).1
      let high ← Rule.integerPart (exampleRange b).2
      pure (.drawn fun draw => .int (s.integer low high draw))) :=
  rfl

variable {f : Field}

/-- An integer is drawn from between the ends. -/
theorem enrich_integer (typed : f.resolvedType = .integer) (free : f.literals.getD [] = [])
    (bare : f.sample = none) (finite : f.bounds.IsFinite) (s : Sampler) (draw : Int) :
    f.enrich s draw =
      .ok ({ f with
        sample := some (.int (s.integer (firstDraw f.bounds) (lastDraw f.bounds) draw)) },
        draw + 1) := by
  have low := Number.integerPart_eq_ok (isFinite_range finite).1
  have high := Number.integerPart_eq_ok (isFinite_range finite).2
  have guessed : f.guess s = integerGuess s f.bounds := by
    rw [guess_of_free free, typed]
  have made : integerGuess s f.bounds = .ok (.drawn fun draw =>
      .int (s.integer (firstDraw f.bounds) (lastDraw f.bounds) draw)) := by
    rw [integerGuess_eq, low, high]
    rfl
  rw [enrich, bare, guessed, made]
  rfl

theorem enrich_between (typed : f.resolvedType = .integer) (free : f.literals.getD [] = [])
    (bare : f.sample = none) (finite : f.bounds.IsFinite) {s : Sampler}
    (between : s.DrawsBetween) (draw : Int) :
    ∃ n, f.enrich s draw = .ok ({ f with sample := some (.int n) }, draw + 1) ∧
      firstDraw f.bounds ≤ n ∧ n ≤ lastDraw f.bounds :=
  ⟨_, enrich_integer typed free bare finite s draw,
    between _ _ draw (firstDraw_le_lastDraw finite)⟩

/-- Whatever is drawn, the example keeps to the bounds. -/
def SampleAdmitted (f : Field) : Prop :=
  ∀ s : Sampler, s.DrawsBetween → ∀ draw, ∃ n,
    f.enrich s draw = .ok ({ f with sample := some (.int n) }, draw + 1) ∧ f.bounds.Admits n

/-- A source that always gives one integer of those that it is asked for. -/
def pinned (pick : Int → Int → Int) : Sampler :=
  { Sampler.counting "" with integer := fun low high _ => pick low high }

theorem sampleAdmitted_iff (typed : f.resolvedType = .integer) (free : f.literals.getD [] = [])
    (bare : f.sample = none) (finite : f.bounds.IsFinite) :
    f.SampleAdmitted ↔
      f.bounds.LowAdmits (firstDraw f.bounds) ∧ f.bounds.HighAdmits (lastDraw f.bounds) := by
  constructor
  · intro always
    have drawn := enrich_integer typed free bare finite
    have picked : ∀ pick : Int → Int → Int, (pinned pick).DrawsBetween →
        f.bounds.Admits (pick (firstDraw f.bounds) (lastDraw f.bounds)) := by
      intro pick between
      obtain ⟨n, made, admitted⟩ := always (pinned pick) between 0
      cases (drawn (pinned pick) 0).symm.trans made
      exact admitted
    have least := picked (fun low _ => low) fun _ _ _ ordered => ⟨le_rfl, ordered⟩
    have most := picked (fun _ high => high) fun _ _ _ ordered => ⟨ordered, le_rfl⟩
    exact ⟨least.1, most.2⟩
  · rintro ⟨low, high⟩ s between draw
    obtain ⟨n, made, after, before⟩ := enrich_between typed free bare finite between draw
    exact ⟨n, made, finite.admits_between low high after before⟩

/-! Closed bounds. -/

section

variable {b : Bounds}

theorem lowAdmits_firstDraw_closed (finite : b.IsFinite) (closed : b.exclusiveMin = false) :
    b.LowAdmits (firstDraw b) ↔
      ∀ low ∈ b.min, ¬ (low.isFractional = true ∧ (Number.int 0).lt low = true) := by
  cases given : b.min with
  | none => simp [Bounds.lowAdmits_of_none given]
  | some low =>
      have here := finite.low low given
      have start : firstDraw b = towardsZero low.value := by
        simp [firstDraw, exampleRange_eq, lowest, given, closed]
      have positive := Number.lt_iff (a := .int 0) trivial here
      rw [Bounds.lowAdmits_closed_iff finite closed, given, start]
      simp only [le_towardsZero_iff, Option.mem_some_iff, forall_eq', Number.isFractional_iff here,
        positive, Number.value_int, Int.cast_zero]
      rw [← not_lt]
      tauto

theorem highAdmits_lastDraw_closed (finite : b.IsFinite) (closedLow : b.exclusiveMin = false)
    (closedHigh : b.exclusiveMax = false) (some_ : ∃ n, b.Admits n) :
    b.HighAdmits (lastDraw b) ↔
      (∀ high ∈ b.max, ¬ (high.isFractional = true ∧ high.lt (.int 0) = true)) ∧
        (b.min = none → b.Admits 0) := by
  cases top : b.max with
  | none =>
      simp only [Bounds.highAdmits_of_none top, true_iff, Option.mem_def, reduceCtorEq,
        false_imp_iff, implies_true, true_and]
      exact fun free => ⟨Bounds.lowAdmits_of_none free, Bounds.highAdmits_of_none top⟩
  | some high =>
      have here := finite.high high top
      have highest_ : highest b = high := by simp [highest, top, closedHigh]
      have negative := Number.lt_iff (b := .int 0) here trivial
      have admits : ∀ n : Int, b.HighAdmits n ↔ (n : ℚ) ≤ high.value := by
        intro n
        rw [Bounds.highAdmits_closed_iff finite closedHigh, top]
        simp
      simp only [Option.mem_some_iff, forall_eq', Number.isFractional_iff here, negative,
        Number.value_int, Int.cast_zero]
      rw [admits, lastDraw_eq finite, highest_]
      cases given : b.min with
      | none =>
          have lowest_ : (lowest b).value = 0 := by
            simp [lowest, given, closedLow, Number.value_int]
          have zero : b.Admits 0 ↔ 0 ≤ high.value := by
            rw [Bounds.Admits, admits, and_iff_right (Bounds.lowAdmits_of_none given),
              Int.cast_zero]
          rw [lowest_, zero]
          rcases le_or_gt 0 high.value with natural | below
          · rw [max_eq_right natural, towardsZero_le_iff]
            simp [natural]
          · rw [max_eq_left below.le]
            simp [towardsZero, below.not_ge]
      | some low =>
          obtain ⟨n, after, before⟩ := some_
          have lowest_ : lowest b = low := by simp [lowest, given, closedLow]
          have ordered : low.value ≤ high.value := by
            have below := (Bounds.lowAdmits_closed_iff finite closedLow).mp after low given
            exact below.trans ((admits n).mp before)
          rw [lowest_, max_eq_right ordered, towardsZero_le_iff, ← not_lt]
          simp only [reduceCtorEq, false_imp_iff, and_true]
          tauto

/-! Bounds that are integers. -/

theorem lowest_int (integers : b.IsInt) :
    ∃ low, lowest b = .int (low + if b.exclusiveMin then 1 else 0) ∧
      b.min.getD (.int 0) = .int low := by
  obtain ⟨low, given⟩ : ∃ low, b.min.getD (.int 0) = .int low := by
    cases given : b.min with
    | none => exact ⟨0, rfl⟩
    | some low => exact integers.low low given
  refine ⟨low, ?_, given⟩
  rw [lowest, given]
  cases b.exclusiveMin <;> simp [shiftNumber]

theorem firstDraw_int (integers : b.IsInt) :
    ∃ low, firstDraw b = low + (if b.exclusiveMin then 1 else 0) ∧
      b.min.getD (.int 0) = .int low := by
  obtain ⟨low, lowest_, given⟩ := lowest_int integers
  refine ⟨low, ?_, given⟩
  rw [firstDraw, exampleRange_eq, lowest_, Number.value_int, towardsZero_intCast]

theorem lowAdmits_firstDraw_int (integers : b.IsInt) : b.LowAdmits (firstDraw b) := by
  obtain ⟨low, first, given⟩ := firstDraw_int integers
  cases bound : b.min with
  | none => exact Bounds.lowAdmits_of_none bound
  | some value =>
      rw [bound, Option.getD_some] at given
      rw [given] at bound
      rw [Bounds.lowAdmits_int bound, first]

theorem highAdmits_lastDraw_int (integers : b.IsInt) (some_ : ∃ n, b.Admits n) :
    b.HighAdmits (lastDraw b) ↔
      (b.min = none → b.Admits (if b.exclusiveMin then 1 else 0)) := by
  cases top : b.max with
  | none =>
      refine iff_of_true (Bounds.highAdmits_of_none top) fun free => ?_
      exact ⟨Bounds.lowAdmits_of_none free, Bounds.highAdmits_of_none top⟩
  | some high =>
      obtain ⟨high, rfl⟩ := integers.high high top
      obtain ⟨low, lowest_, given⟩ := lowest_int integers
      have highest_ : highest b = .int (high - if b.exclusiveMax then 1 else 0) := by
        rw [highest, top]
        cases b.exclusiveMax <;> simp [shiftNumber, Int.sub_eq_add_neg]
      have last : lastDraw b =
          max (low + if b.exclusiveMin then 1 else 0) (high - if b.exclusiveMax then 1 else 0) := by
        rw [lastDraw_eq integers.isFinite, lowest_, highest_, Number.value_int, Number.value_int,
          ← Int.cast_max, towardsZero_intCast]
      rw [Bounds.highAdmits_int top, last, max_le_iff, and_iff_left le_rfl]
      cases bound : b.min with
      | none =>
          rw [bound] at given
          cases given
          rw [Bounds.Admits, and_iff_right (Bounds.lowAdmits_of_none bound),
            Bounds.highAdmits_int top]
          simp
      | some value =>
          obtain ⟨n, after, before⟩ := some_
          rw [bound, Option.getD_some] at given
          rw [given] at bound
          rw [Bounds.lowAdmits_int bound] at after
          rw [Bounds.highAdmits_int top] at before
          exact iff_of_true (after.trans before) fun free => nomatch free

end

/-- The example of an integer field comes from between two ends, and keeps to the bounds whatever is
drawn exactly if the ends do. With closed bounds that is so unless a lower bound is a fraction above
zero, or an upper one a fraction below, or there is an upper bound alone and it is below zero. With
integers as bounds only the last of these is left: the number that is taken for a missing lower
bound may be beyond the upper one. -/
theorem integer_sample_admitted_iff (typed : f.resolvedType = .integer)
    (free : f.literals.getD [] = []) (bare : f.sample = none) (finite : f.bounds.IsFinite)
    (some_ : ∃ n, f.bounds.Admits n) :
    (∀ s draw, f.enrich s draw =
        .ok ({ f with
          sample := some (.int (s.integer (firstDraw f.bounds) (lastDraw f.bounds) draw)) },
          draw + 1)) ∧
      (f.SampleAdmitted ↔
        f.bounds.LowAdmits (firstDraw f.bounds) ∧ f.bounds.HighAdmits (lastDraw f.bounds)) ∧
      (f.bounds.exclusiveMin = false → f.bounds.exclusiveMax = false →
        (f.SampleAdmitted ↔
          (∀ low ∈ f.bounds.min, ¬ (low.isFractional = true ∧ (Number.int 0).lt low = true)) ∧
          (∀ high ∈ f.bounds.max, ¬ (high.isFractional = true ∧ high.lt (.int 0) = true)) ∧
          (f.bounds.min = none → f.bounds.Admits 0))) ∧
      (f.bounds.IsInt →
        (f.SampleAdmitted ↔
          (f.bounds.min = none → f.bounds.Admits (if f.bounds.exclusiveMin then 1 else 0)))) := by
  have ends := sampleAdmitted_iff typed free bare finite
  refine ⟨enrich_integer typed free bare finite, ends, fun closedLow closedHigh => ?_,
    fun integers => ?_⟩
  · rw [ends, lowAdmits_firstDraw_closed finite closedLow,
      highAdmits_lastDraw_closed finite closedLow closedHigh some_]
  · rw [ends, and_iff_right (lowAdmits_firstDraw_int integers),
      highAdmits_lastDraw_int integers some_]

/-- From -1.5 to 4. -/
def temperature : Field where
  name := "temperature"
  type := some .integer
  bounds := { min := some (.real (.finite true 6755399441055744 (-52))), max := some (.int 4) }

def middle : Field where
  name := "n"
  type := some .integer
  bounds :=
    { min := some (.int 1), max := some (.int 3), exclusiveMin := true, exclusiveMax := true }

theorem sampleAdmitted_temperature :
    temperature.bounds.IsFinite ∧ temperature.bounds.Admits 0 ∧ temperature.SampleAdmitted ∧
      middle.bounds.IsInt ∧ middle.bounds.Admits 2 ∧ middle.SampleAdmitted := by
  have finite : temperature.bounds.IsFinite := ⟨by decide, by decide⟩
  have zero : temperature.bounds.Admits 0 := by decide
  have integers : middle.bounds.IsInt := ⟨by simp [middle], by simp [middle]⟩
  have two : middle.bounds.Admits 2 := by decide
  obtain ⟨_, _, closed, _⟩ := integer_sample_admitted_iff rfl rfl rfl finite ⟨0, zero⟩
  obtain ⟨_, _, _, whole⟩ := integer_sample_admitted_iff rfl rfl rfl integers.isFinite ⟨2, two⟩
  refine ⟨finite, zero, (closed rfl rfl).mpr ⟨by decide, by decide, ?_⟩, integers, two,
    (whole integers).mpr ?_⟩
  · intro none_
    cases none_
  · intro none_
    cases none_

def depth : Field where
  name := "depth"
  type := some .integer
  bounds := { max := some (.int (-5)) }

/-- From 1.5 to 2.5. -/
def share : Field where
  name := "share"
  type := some .integer
  bounds :=
    { min := some (.real (.finite false 6755399441055744 (-52)))
      max := some (.real (.finite false 5629499534213120 (-51))) }

/-- The lower bound that is missing is taken for zero, above the upper one; the fraction of a lower
bound is cut off. -/
theorem sample_outside_bounds :
    depth.bounds.Admits (-5) ∧
      depth.enrich (.counting "en_US") 0 = .ok ({ depth with sample := some (.int 0) }, 1) ∧
      ¬ depth.bounds.Admits 0 ∧
      share.bounds.Admits 2 ∧
      share.enrich (.counting "en_US") 0 = .ok ({ share with sample := some (.int 1) }, 1) ∧
      ¬ share.bounds.Admits 1 :=
  ⟨by decide, rfl, by decide, by decide, rfl, by decide⟩

end Field
end RouteDocs
