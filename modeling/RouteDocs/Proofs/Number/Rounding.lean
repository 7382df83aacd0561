import Mathlib.Algebra.Order.Field.Power
import RouteDocs.Proofs.Number.Order

/-!
Rounding stays in range: a quotient below the greatest number and half of its last place is rounded
to a finite number. So a number stays finite when a small one is added to it.
-/

namespace RouteDocs.Double

/-! Rounded quotients. -/

theorem roundQuotient_le (num : Nat) {den : Nat} (positive : 0 < den) :
    (roundQuotient num den : ℚ) ≤ num / den + 1 / 2 := by
  have above : (0 : ℚ) < den := by exact_mod_cast positive
  have parted : (den : ℚ) * (num / den : ℕ) + (num % den : ℕ) = num := by
    exact_mod_cast Nat.div_add_mod num den
  rw [← sub_le_iff_le_add, le_div_iff₀ above]
  unfold roundQuotient
  dsimp only
  split
  · rename_i up
    have half : den ≤ 2 * (num % den) := by
      rcases Bool.or_eq_true_iff.mp up with more | tie
      · exact (of_decide_eq_true more).le
      · exact (beq_iff_eq.mp (Bool.and_eq_true_iff.mp tie).1).ge
    have half : (den : ℚ) ≤ 2 * (num % den : ℕ) := by exact_mod_cast half
    push_cast
    linarith
  · have rest : (0 : ℚ) ≤ (num % den : ℕ) := Nat.cast_nonneg _
    linarith

/-! The exponent of a rounded number. -/

/-- An exponent at which the quotient has 53 or 54 bits, or the least one. -/
def lowExponent (num den : Nat) : Int :=
  max ((Nat.log2 num : Int) - (Nat.log2 den : Int) - 53) (-1074)

def roundedExponent (num den : Nat) : Int :=
  let (scaled, unit) := scale num den (-lowExponent num den)
  if Nat.pow 2 53 ≤ scaled / unit then lowExponent num den + 1 else lowExponent num den

def roundedMantissa (num den : Nat) : Nat :=
  let (scaled, unit) := scale num den (-roundedExponent num den)
  roundQuotient scaled unit

theorem round_eq (negative : Bool) {num : Nat} (some_ : num ≠ 0) (den : Nat) :
    round negative num den =
      let (mantissa, exponent) :=
        if roundedMantissa num den == Nat.pow 2 53 then
          (Nat.pow 2 52, roundedExponent num den + 1)
        else (roundedMantissa num den, roundedExponent num den)
      if 971 < exponent then .infinity negative else .finite negative mantissa exponent := by
  rw [round, if_neg (by simpa using some_)]
  rfl

section

variable {num den : Nat}

theorem lt_two_zpow_log2 (n : Nat) : (n : ℚ) < 2 ^ ((Nat.log2 n : ℤ) + 1) := by
  exact_mod_cast Nat.lt_log2_self

theorem two_zpow_log2_le (some_ : num ≠ 0) : (2 : ℚ) ^ (Nat.log2 num : ℤ) ≤ num := by
  exact_mod_cast Nat.log2_self_le some_

theorem quotient_lt_log2 (positive : 0 < den) :
    (num : ℚ) / den < 2 ^ ((Nat.log2 num : ℤ) - Nat.log2 den + 1) := by
  have above : (0 : ℚ) < den := by exact_mod_cast positive
  rw [div_lt_iff₀ above]
  calc
    (num : ℚ) < 2 ^ ((Nat.log2 num : ℤ) + 1) := lt_two_zpow_log2 num
    _ = 2 ^ ((Nat.log2 num : ℤ) - Nat.log2 den + 1) * 2 ^ (Nat.log2 den : ℤ) := by
      rw [← zpow_add₀ (by norm_num)]
      congr 1
      omega
    _ ≤ 2 ^ ((Nat.log2 num : ℤ) - Nat.log2 den + 1) * den :=
      mul_le_mul_of_nonneg_left (two_zpow_log2_le positive.ne') (by positivity)

theorem log2_lt_quotient (some_ : num ≠ 0) (positive : 0 < den) :
    (2 : ℚ) ^ ((Nat.log2 num : ℤ) - Nat.log2 den - 1) < num / den := by
  have above : (0 : ℚ) < den := by exact_mod_cast positive
  rw [lt_div_iff₀ above]
  calc
    (2 : ℚ) ^ ((Nat.log2 num : ℤ) - Nat.log2 den - 1) * den
        < 2 ^ ((Nat.log2 num : ℤ) - Nat.log2 den - 1) * 2 ^ ((Nat.log2 den : ℤ) + 1) :=
      mul_lt_mul_of_pos_left (lt_two_zpow_log2 den) (by positivity)
    _ = 2 ^ (Nat.log2 num : ℤ) := by
      rw [← zpow_add₀ (by norm_num)]
      congr 1
      omega
    _ ≤ num := two_zpow_log2_le some_

/-- A rounded quotient against the mantissa that it is scaled to. -/
theorem le_scaled_div_iff (positive : 0 < den) (bits : Nat) (exponent : Int) :
    Nat.pow 2 bits ≤ (scale num den (-exponent)).1 / (scale num den (-exponent)).2 ↔
      (2 : ℚ) ^ (bits + exponent) ≤ num / den := by
  have above := scale_den_pos num (-exponent) positive
  have divisor : (0 : ℚ) < (scale num den (-exponent)).2 := by exact_mod_cast above
  have power : (2 : ℚ) ^ exponent ≠ 0 := zpow_ne_zero exponent (by norm_num)
  rw [Nat.le_div_iff_mul_le above, zpow_add₀ (by norm_num), zpow_natCast,
    ← le_div_iff₀ (by positivity), div_eq_mul_inv, ← zpow_neg, ← scale_quotient,
    le_div_iff₀ divisor, Nat.pow_eq]
  exact_mod_cast Iff.rfl

/-- The mantissa has 53 bits at most, and fewer only at the least exponent. -/
theorem roundedExponent_bounds (some_ : num ≠ 0) (positive : 0 < den) :
    -1074 ≤ roundedExponent num den ∧
      (num : ℚ) / den < 2 ^ (53 + roundedExponent num den) ∧
      (roundedExponent num den = -1074 ∨
        (2 : ℚ) ^ (52 + roundedExponent num den) ≤ num / den) := by
  have least : -1074 ≤ lowExponent num den := le_max_right _ _
  have near : (Nat.log2 num : ℤ) - Nat.log2 den - 53 ≤ lowExponent num den := le_max_left _ _
  have fits := @le_scaled_div_iff num den positive 53 (lowExponent num den)
  unfold roundedExponent
  dsimp only
  split
  · rename_i large
    refine ⟨by omega, (quotient_lt_log2 positive).trans_le ?_, .inr ?_⟩
    · exact zpow_le_zpow_right₀ (by norm_num) (by omega)
    · convert fits.mp large using 2
      push_cast
      ring
  · rename_i small
    refine ⟨least, ?_, ?_⟩
    · have below := lt_of_not_ge (mt fits.mpr small)
      exact_mod_cast below
    · rcases max_choice ((Nat.log2 num : Int) - (Nat.log2 den : Int) - 53) (-1074) with log | floor
      · refine .inr (le_trans ?_ (log2_lt_quotient some_ positive).le)
        rw [lowExponent, log]
        exact zpow_le_zpow_right₀ (by norm_num) (by omega)
      · exact .inl floor

theorem roundedMantissa_lt (positive : 0 < den) {bound : ℚ}
    (small : (num : ℚ) / den < (bound - 1 / 2) * 2 ^ roundedExponent num den) :
    (roundedMantissa num den : ℚ) < bound := by
  have rounded := roundQuotient_le (scale num den (-roundedExponent num den)).1
    (scale_den_pos num (-roundedExponent num den) positive)
  rw [scale_quotient, zpow_neg, ← div_eq_mul_inv] at rounded
  rw [← div_lt_iff₀ (by positivity)] at small
  exact rounded.trans_lt (by linarith)

/-- The last place of the greatest numbers. -/
@[irreducible] def topUnit : ℚ := 2 ^ (971 : ℤ)

theorem topUnit_pos : 0 < topUnit := by
  unfold topUnit
  positivity

theorem two_pow_le_topUnit {bits : Nat} (few : bits ≤ 971) : (2 : ℚ) ^ bits ≤ topUnit := by
  rw [topUnit, ← zpow_natCast]
  exact zpow_le_zpow_right₀ (by norm_num) (by exact_mod_cast few)

theorem roundedExponent_le (some_ : num ≠ 0) (positive : 0 < den)
    (small : (num : ℚ) / den < (2 ^ 53 - 1 / 2) * topUnit) : roundedExponent num den ≤ 971 := by
  obtain ⟨_, _, large⟩ := roundedExponent_bounds some_ positive
  by_contra more
  rcases large with floor | above
  · omega
  · have beyond : (2 : ℚ) ^ (52 + 972 : ℤ) ≤ 2 ^ (52 + roundedExponent num den) :=
      zpow_le_zpow_right₀ (by norm_num) (by omega)
    have parted : (2 : ℚ) ^ (52 + 972 : ℤ) = 2 ^ 53 * topUnit := by
      rw [topUnit, ← zpow_natCast, ← zpow_add₀ (by norm_num)]
      norm_num
    have unit := topUnit_pos
    rw [parted] at beyond
    linarith

theorem roundedMantissa_le (some_ : num ≠ 0) (positive : 0 < den) :
    roundedMantissa num den ≤ 2 ^ 53 := by
  obtain ⟨_, below, _⟩ := roundedExponent_bounds some_ positive
  have rounded : (roundedMantissa num den : ℚ) < (2 ^ 53 + 1 : ℕ) := by
    refine roundedMantissa_lt positive (below.trans ?_)
    rw [zpow_add₀ (by norm_num)]
    exact mul_lt_mul_of_pos_right (by norm_num) (by positivity)
  exact Nat.lt_succ_iff.mp (by exact_mod_cast rounded)

/-- The greatest number and half of its last place are out of reach. -/
theorem round_isFinite (negative : Bool) (positive : 0 < den)
    (small : (num : ℚ) / den < (2 ^ 53 - 1 / 2) * topUnit) :
    (round negative num den).IsFinite := by
  by_cases none_ : num = 0
  · subst none_
    exact ⟨by norm_num, le_rfl, by norm_num⟩
  have least := (roundedExponent_bounds none_ positive).1
  have most := roundedExponent_le none_ positive small
  have bits := roundedMantissa_le none_ positive
  have full : roundedExponent num den = 971 → roundedMantissa num den < 2 ^ 53 := by
    intro top
    have rounded : (roundedMantissa num den : ℚ) < (2 ^ 53 : ℕ) := by
      refine roundedMantissa_lt positive ?_
      rw [top, ← topUnit, Nat.cast_pow, Nat.cast_ofNat]
      exact small
    exact_mod_cast rounded
  rw [round_eq negative none_]
  -- A mantissa that is rounded up to 54 bits is halved, and its exponent goes up by one.
  by_cases carries : roundedMantissa num den = 2 ^ 53
  · have room : roundedExponent num den ≠ 971 := fun top => (full top).ne carries
    rw [if_pos (by simpa using carries)]
    dsimp only
    rw [if_neg (by omega)]
    exact ⟨by norm_num, by omega, by omega⟩
  · rw [if_neg (by simpa using carries)]
    dsimp only
    rw [if_neg (by omega)]
    exact ⟨lt_of_le_of_ne bits carries, least, most⟩

end

/-! Sums. -/

variable {x y : Double}

theorem abs_value_finite (negative : Bool) (mantissa : Nat) (exponent : Int) :
    |(finite negative mantissa exponent).value| = mantissa * 2 ^ exponent := by
  cases negative <;> simp [value, abs_mul]

theorem abs_value_le (finite : x.IsFinite) : |x.value| ≤ (2 ^ 53 - 1) * topUnit := by
  obtain ⟨negative, mantissa, exponent, rfl⟩ := finite.exists_eq
  obtain ⟨bits, _, most⟩ := finite
  have bits : (mantissa : ℚ) ≤ 2 ^ 53 - 1 := by
    rw [le_sub_iff_add_le]
    exact_mod_cast bits
  have power : (2 : ℚ) ^ exponent ≤ topUnit := by
    rw [topUnit]
    exact zpow_le_zpow_right₀ (by norm_num) most
  rw [abs_value_finite]
  exact mul_le_mul bits power (by positivity) (by norm_num)

/-- Less than half of the last place of the greatest number is added. -/
theorem add_isFinite (first : x.IsFinite) (second : y.IsFinite) (small : |y.value| < topUnit / 2) :
    (x.add y).IsFinite := by
  have large := abs_value_le first
  obtain ⟨a, m, e, rfl⟩ := first.exists_eq
  obtain ⟨b, n, f, rfl⟩ := second.exists_eq
  rw [← toQuotient_value] at small large
  have dPos := toQuotient_pos a m e
  have cPos := toQuotient_pos b n f
  rw [add]
  generalize toQuotient a m e = left at large dPos ⊢
  generalize toQuotient b n f = right at small cPos ⊢
  obtain ⟨x, d⟩ := left
  obtain ⟨y, c⟩ := right
  dsimp only at large small dPos cPos ⊢
  rw [ofQuotient]
  split
  · exact ⟨by norm_num, le_rfl, by norm_num⟩
  · apply round_isFinite _ (Nat.mul_pos dPos cPos)
    have dPos : (0 : ℚ) < d := by exact_mod_cast dPos
    have cPos : (0 : ℚ) < c := by exact_mod_cast cPos
    have sum : ((x * c + y * d : ℤ).natAbs : ℚ) / (d * c : ℕ) = |(x : ℚ) / d + y / c| := by
      rw [div_add_div _ _ dPos.ne' cPos.ne', abs_div, abs_of_pos (mul_pos dPos cPos),
        Nat.cast_natAbs, mul_comm (d : ℚ) y]
      push_cast
      rfl
    rw [sum]
    have parts := abs_add_le ((x : ℚ) / d) (y / c)
    linarith

end RouteDocs.Double
