import Mathlib.Data.Rat.Floor
import Mathlib.Tactic.FieldSimp
import Mathlib.Tactic.Linarith
import RouteDocs.Rule.Effect

/-!
Finite numbers as rational ones. Comparing them compares the rationals, and their integer part is
the one towards zero.
-/

namespace RouteDocs

/-! Rationals without their fraction. -/

/-- The nearest integer on the side of zero. -/
def towardsZero (q : ℚ) : ℤ :=
  if 0 ≤ q then ⌊q⌋ else ⌈q⌉

section

variable {q r : ℚ}

theorem towardsZero_of_nonneg (natural : 0 ≤ q) : towardsZero q = ⌊q⌋ := if_pos natural

theorem towardsZero_of_nonpos (low : q ≤ 0) : towardsZero q = ⌈q⌉ := by
  rcases low.lt_or_eq with below | rfl
  · exact if_neg below.not_ge
  · simp [towardsZero]

@[simp] theorem towardsZero_intCast (n : ℤ) : towardsZero n = n := by
  unfold towardsZero
  split
  · exact Int.floor_intCast n
  · exact Int.ceil_intCast n

theorem towardsZero_mono (ordered : q ≤ r) : towardsZero q ≤ towardsZero r := by
  rcases le_total 0 q with natural | low
  · rw [towardsZero_of_nonneg natural, towardsZero_of_nonneg (natural.trans ordered)]
    exact Int.floor_le_floor ordered
  · rw [towardsZero_of_nonpos low]
    rcases le_total 0 r with high | below
    · rw [towardsZero_of_nonneg high]
      exact (Int.ceil_le.mpr (by simpa using low)).trans (Int.floor_nonneg.mpr high)
    · rw [towardsZero_of_nonpos below]
      exact Int.ceil_le_ceil ordered

/-- Only a fraction above zero is above its integer part. -/
theorem le_towardsZero_iff : q ≤ towardsZero q ↔ q ≤ 0 ∨ (towardsZero q : ℚ) = q := by
  rcases le_total 0 q with natural | low
  · rw [towardsZero_of_nonneg natural]
    constructor
    · intro above
      exact .inr (le_antisymm (Int.floor_le q) above)
    · rintro (low | whole)
      · simp [le_antisymm low natural]
      · exact whole.ge
  · rw [towardsZero_of_nonpos low]
    exact iff_of_true (Int.le_ceil q) (.inl low)

/-- Only a fraction below zero is below its integer part. -/
theorem towardsZero_le_iff : (towardsZero q : ℚ) ≤ q ↔ 0 ≤ q ∨ (towardsZero q : ℚ) = q := by
  rcases le_total 0 q with natural | low
  · rw [towardsZero_of_nonneg natural]
    exact iff_of_true (Int.floor_le q) (.inl natural)
  · rw [towardsZero_of_nonpos low]
    constructor
    · intro below
      exact .inr (le_antisymm below (Int.le_ceil q))
    · rintro (natural | whole)
      · simp [le_antisymm low natural]
      · exact whole.le

theorem towardsZero_div (x : ℤ) (d : ℕ) : towardsZero (x / d) = x.tdiv d := by
  rcases Int.le_total 0 x with natural | low
  · have high : (0 : ℚ) ≤ x / d := by positivity
    rw [towardsZero_of_nonneg high, Rat.floor_intCast_div_natCast,
      Int.tdiv_eq_ediv_of_nonneg natural]
  · obtain ⟨y, rfl⟩ : ∃ y, x = -y := ⟨-x, (neg_neg x).symm⟩
    have natural : 0 ≤ y := by omega
    have below : ((-y : ℤ) : ℚ) / d ≤ 0 := by
      rw [Int.cast_neg, neg_div, neg_nonpos]
      positivity
    rw [towardsZero_of_nonpos below, Int.cast_neg, neg_div, Int.ceil_neg,
      Rat.floor_intCast_div_natCast, Int.neg_tdiv, Int.tdiv_eq_ediv_of_nonneg natural]

end

/-! Floating-point numbers. -/

namespace Double

/-- Finite, with a mantissa and an exponent that rounding makes. -/
def IsFinite : Double → Prop
  | finite _ mantissa exponent => mantissa < 2 ^ 53 ∧ -1074 ≤ exponent ∧ exponent ≤ 971
  | _ => False

instance : DecidablePred IsFinite := fun x =>
  match x with
  | finite .. => inferInstanceAs (Decidable (_ ∧ _))
  | nan => inferInstanceAs (Decidable False)
  | infinity _ => inferInstanceAs (Decidable False)

def value : Double → ℚ
  | finite negative mantissa exponent => (if negative then -1 else 1) * mantissa * 2 ^ exponent
  | _ => 0

theorem IsFinite.exists_eq {x : Double} (finite : x.IsFinite) :
    ∃ negative mantissa exponent, x = .finite negative mantissa exponent := by
  cases x with
  | finite negative mantissa exponent => exact ⟨negative, mantissa, exponent, rfl⟩
  | nan => exact finite.elim
  | infinity negative => exact finite.elim

section

variable (negative : Bool) (num den : Nat) (shift : Int)

theorem scale_den_pos {den : Nat} (positive : 0 < den) : 0 < (scale num den shift).2 := by
  unfold scale
  split
  · exact positive
  · exact Nat.mul_pos positive (Nat.pow_pos (by decide))

theorem scale_quotient :
    ((scale num den shift).1 : ℚ) / (scale num den shift).2 = num / den * 2 ^ shift := by
  unfold scale
  split
  · rename_i natural
    obtain ⟨k, rfl⟩ := Int.eq_ofNat_of_zero_le natural
    simp [div_mul_eq_mul_div]
  · rename_i below
    obtain ⟨k, rfl⟩ : ∃ k : ℕ, shift = -k := ⟨shift.natAbs, by omega⟩
    simp [div_eq_mul_inv, mul_assoc, mul_comm]

end

section

variable (negative : Bool) (mantissa : Nat) (exponent : Int)

theorem toQuotient_pos : 0 < (toQuotient negative mantissa exponent).2 :=
  scale_den_pos mantissa exponent Nat.one_pos

theorem toQuotient_value :
    ((toQuotient negative mantissa exponent).1 : ℚ) / (toQuotient negative mantissa exponent).2 =
      (finite negative mantissa exponent).value := by
  have scaled := scale_quotient mantissa 1 exponent
  rw [Nat.cast_one, div_one] at scaled
  cases negative with
  | false => simpa [toQuotient, value, magnitude] using scaled
  | true => simpa [toQuotient, value, magnitude, neg_div] using scaled

end

theorem cmp_quotients (x y : ℤ) {d c : ℕ} (first : 0 < d) (second : 0 < c) :
    compare (x * c) (y * d) = cmp ((x : ℚ) / d) (y / c) := by
  have left : (x : ℚ) / d * (d * c) = ((x * c : ℤ) : ℚ) := by
    push_cast
    field_simp
  have right : (y : ℚ) / c * (d * c) = ((y * d : ℤ) : ℚ) := by
    push_cast
    field_simp
  have positive : (0 : ℚ) < d * c := by positivity
  rw [← cmp_mul_pos_right positive, left, right, Int.cast_strictMono.cmp_map_eq,
    cmp_eq_compare]

variable {x y : Double}

theorem compare?_eq (first : x.IsFinite) (second : y.IsFinite) :
    x.compare? y = some (cmp x.value y.value) := by
  obtain ⟨_, _, _, rfl⟩ := first.exists_eq
  obtain ⟨_, _, _, rfl⟩ := second.exists_eq
  rw [← toQuotient_value, ← toQuotient_value, ← cmp_quotients _ _ (toQuotient_pos ..)
    (toQuotient_pos ..)]
  rfl

theorem compareInt?_eq (finite : x.IsFinite) (n : Int) :
    x.compareInt? n = some (cmp x.value n) := by
  obtain ⟨negative, mantissa, exponent, rfl⟩ := finite.exists_eq
  have compared := cmp_quotients (toQuotient negative mantissa exponent).1 n
    (toQuotient_pos negative mantissa exponent) Nat.one_pos
  rw [Nat.cast_one, Nat.cast_one, div_one, mul_one, toQuotient_value] at compared
  rw [← compared]
  rfl

theorem truncate?_eq (finite : x.IsFinite) : x.truncate? = some (towardsZero x.value) := by
  obtain ⟨_, _, _, rfl⟩ := finite.exists_eq
  rw [← toQuotient_value, towardsZero_div]
  rfl

theorem isFractional_iff (finite : x.IsFinite) :
    x.isFractional = true ↔ (towardsZero x.value : ℚ) ≠ x.value := by
  obtain ⟨negative, mantissa, exponent, rfl⟩ := finite.exists_eq
  have positive := toQuotient_pos negative mantissa exponent
  rw [← toQuotient_value, towardsZero_div, isFractional]
  generalize toQuotient negative mantissa exponent = parts at positive ⊢
  obtain ⟨x, d⟩ := parts
  have above : (0 : ℚ) < d := by exact_mod_cast positive
  rw [bne_iff_ne, ne_eq, ne_eq, eq_div_iff above.ne', not_iff_not]
  have parted := Int.mul_tdiv_add_tmod x d
  constructor
  · intro none_
    rw [none_, add_zero] at parted
    exact_mod_cast (mul_comm _ _).trans parted
  · intro whole
    have whole : x.tdiv d * d = x := by exact_mod_cast whole
    rw [mul_comm, whole] at parted
    exact left_eq_add.mp parted.symm

end Double

/-! Numbers. -/

namespace Number

def IsFinite : Number → Prop
  | int _ => True
  | real x => x.IsFinite

instance : DecidablePred IsFinite := fun x =>
  match x with
  | int _ => inferInstanceAs (Decidable True)
  | real x => inferInstanceAs (Decidable x.IsFinite)

def value : Number → ℚ
  | int n => n
  | real x => x.value

@[simp] theorem value_int (n : Int) : (int n).value = n := rfl

/-- Is there something behind the point? -/
def isFractional : Number → Bool
  | int _ => false
  | real x => x.isFractional

variable {a b : Number}

theorem compare?_eq (first : a.IsFinite) (second : b.IsFinite) :
    a.compare? b = some (cmp a.value b.value) := by
  cases a with
  | int n =>
      cases b with
      | int m =>
          rw [value_int, value_int, Int.cast_strictMono.cmp_map_eq, cmp_eq_compare]
          rfl
      | real y =>
          rw [compare?, Double.compareInt?_eq second, Option.map_some, value, value, cmp_swap]
  | real x =>
      cases b with
      | int m => exact Double.compareInt?_eq first m
      | real y => exact Double.compare?_eq first second

theorem lt_iff (first : a.IsFinite) (second : b.IsFinite) :
    a.lt b = true ↔ a.value < b.value := by
  rw [lt, compare?_eq first second, beq_iff_eq, Option.some_inj, cmp_eq_lt_iff]

theorem same_iff (first : a.IsFinite) (second : b.IsFinite) :
    a.same b = true ↔ a.value = b.value := by
  rw [same, compare?_eq first second, beq_iff_eq, Option.some_inj, cmp_eq_eq_iff]

theorem isFractional_iff (finite : a.IsFinite) :
    a.isFractional = true ↔ (towardsZero a.value : ℚ) ≠ a.value := by
  cases a with
  | int n => simp [isFractional, value]
  | real x => exact Double.isFractional_iff finite

theorem integerPart_eq_ok (finite : a.IsFinite) :
    Rule.integerPart a = .ok (towardsZero a.value) := by
  cases a with
  | int n => rw [value_int, towardsZero_intCast, Rule.integerPart]
  | real x =>
      have truncated := Double.truncate?_eq finite
      obtain ⟨_, _, _, rfl⟩ := Double.IsFinite.exists_eq finite
      exact congrArg (fun part => Except.ok (part.getD 0)) truncated

/-- Finite, and with nothing behind the point. -/
def IsWhole (a : Number) : Prop :=
  a.IsFinite ∧ a.isFractional = false

instance : DecidablePred IsWhole := fun _ => inferInstanceAs (Decidable (_ ∧ _))

theorem IsWhole.exists_integerPart (whole : a.IsWhole) :
    ∃ n : ℤ, Rule.integerPart a = .ok n ∧ a.value = n := by
  obtain ⟨finite, exact_⟩ := whole
  refine ⟨_, integerPart_eq_ok finite, ?_⟩
  have same := mt (isFractional_iff finite).mpr (by simp [exact_])
  exact (not_ne_iff.mp same).symm

end Number
end RouteDocs
