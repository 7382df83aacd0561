import RouteDocs.Field.Basic
import RouteDocs.Proofs.Number.Order

/-!
The integers that bounds admit. They are those from a least one on, up to a greatest one.
-/

namespace RouteDocs.Bounds

/-- The number keeps to the lower bound, and is not the bound itself if that is excluded. -/
def LowAdmits (b : Bounds) (n : Int) : Prop :=
  ∀ low ∈ b.min, low.lt (.int n) = true ∨ (b.exclusiveMin = false ∧ low.same (.int n) = true)

def HighAdmits (b : Bounds) (n : Int) : Prop :=
  ∀ high ∈ b.max, (Number.int n).lt high = true ∨
    (b.exclusiveMax = false ∧ (Number.int n).same high = true)

def Admits (b : Bounds) (n : Int) : Prop :=
  b.LowAdmits n ∧ b.HighAdmits n

instance (b : Bounds) (n : Int) : Decidable (b.LowAdmits n) :=
  inferInstanceAs (Decidable (∀ low ∈ b.min, _))

instance (b : Bounds) (n : Int) : Decidable (b.HighAdmits n) :=
  inferInstanceAs (Decidable (∀ high ∈ b.max, _))

instance (b : Bounds) (n : Int) : Decidable (b.Admits n) :=
  inferInstanceAs (Decidable (_ ∧ _))

structure IsFinite (b : Bounds) : Prop where
  low : ∀ low ∈ b.min, low.IsFinite
  high : ∀ high ∈ b.max, high.IsFinite

structure IsInt (b : Bounds) : Prop where
  low : ∀ low ∈ b.min, ∃ n, low = .int n
  high : ∀ high ∈ b.max, ∃ n, high = .int n

structure IsWhole (b : Bounds) : Prop where
  low : ∀ low ∈ b.min, low.IsWhole
  high : ∀ high ∈ b.max, high.IsWhole

variable {b : Bounds} {m n : Int}

theorem IsWhole.isFinite (whole : b.IsWhole) : b.IsFinite where
  low low given := (whole.low low given).1
  high high given := (whole.high high given).1

theorem IsInt.isFinite (integers : b.IsInt) : b.IsFinite where
  low low given := by
    obtain ⟨n, rfl⟩ := integers.low low given
    trivial
  high high given := by
    obtain ⟨n, rfl⟩ := integers.high high given
    trivial

theorem lowAdmits_of_none (free : b.min = none) : b.LowAdmits n := by
  simp [LowAdmits, free]

theorem highAdmits_of_none (free : b.max = none) : b.HighAdmits n := by
  simp [HighAdmits, free]

theorem lowAdmits_iff {low : Number} (given : b.min = some low) (finite : low.IsFinite) :
    b.LowAdmits n ↔ low.value < n ∨ (b.exclusiveMin = false ∧ low.value = n) := by
  have least := Number.lt_iff (b := .int n) finite trivial
  have equal := Number.same_iff (b := .int n) finite trivial
  simp only [LowAdmits, given, Option.mem_some_iff, forall_eq', least, equal, Number.value_int]

theorem highAdmits_iff {high : Number} (given : b.max = some high) (finite : high.IsFinite) :
    b.HighAdmits n ↔ (n : ℚ) < high.value ∨ (b.exclusiveMax = false ∧ (n : ℚ) = high.value) := by
  have most := Number.lt_iff (a := .int n) trivial finite
  have equal := Number.same_iff (a := .int n) trivial finite
  simp only [HighAdmits, given, Option.mem_some_iff, forall_eq', most, equal, Number.value_int]

theorem lowAdmits_closed_iff (finite : b.IsFinite) (closed : b.exclusiveMin = false) :
    b.LowAdmits n ↔ ∀ low ∈ b.min, low.value ≤ n := by
  cases given : b.min with
  | none => simp [lowAdmits_of_none given]
  | some low =>
      rw [lowAdmits_iff given (finite.low low given)]
      simp [closed, le_iff_lt_or_eq]

theorem highAdmits_closed_iff (finite : b.IsFinite) (closed : b.exclusiveMax = false) :
    b.HighAdmits n ↔ ∀ high ∈ b.max, (n : ℚ) ≤ high.value := by
  cases given : b.max with
  | none => simp [highAdmits_of_none given]
  | some high =>
      rw [highAdmits_iff given (finite.high high given)]
      simp [closed, le_iff_lt_or_eq]

theorem lowAdmits_int {low : Int} (given : b.min = some (.int low)) :
    b.LowAdmits n ↔ low + (if b.exclusiveMin then 1 else 0) ≤ n := by
  rw [lowAdmits_iff given trivial, Number.value_int, Int.cast_lt, Int.cast_inj]
  cases b.exclusiveMin
  · simp [le_iff_lt_or_eq]
  · rw [if_pos rfl, Int.add_one_le_iff]
    simp

theorem highAdmits_int {high : Int} (given : b.max = some (.int high)) :
    b.HighAdmits n ↔ n ≤ high - (if b.exclusiveMax then 1 else 0) := by
  rw [highAdmits_iff given trivial, Number.value_int, Int.cast_lt, Int.cast_inj]
  cases b.exclusiveMax
  · simp [le_iff_lt_or_eq]
  · rw [if_pos rfl, Int.le_sub_one_iff]
    simp

theorem IsFinite.lowAdmits_mono (finite : b.IsFinite) (admitted : b.LowAdmits m) (more : m ≤ n) :
    b.LowAdmits n := by
  cases given : b.min with
  | none => exact lowAdmits_of_none given
  | some low =>
      have more : (m : ℚ) ≤ n := by exact_mod_cast more
      rw [lowAdmits_iff given (finite.low low given)] at admitted ⊢
      rcases admitted with below | ⟨closed, equal⟩
      · exact .inl (below.trans_le more)
      · rcases more.lt_or_eq with above | same
        · exact .inl (equal.trans_lt above)
        · exact .inr ⟨closed, equal.trans same⟩

theorem IsFinite.highAdmits_anti (finite : b.IsFinite) (admitted : b.HighAdmits n) (less : m ≤ n) :
    b.HighAdmits m := by
  cases given : b.max with
  | none => exact highAdmits_of_none given
  | some high =>
      have less : (m : ℚ) ≤ n := by exact_mod_cast less
      rw [highAdmits_iff given (finite.high high given)] at admitted ⊢
      rcases admitted with above | ⟨closed, equal⟩
      · exact .inl (less.trans_lt above)
      · rcases less.lt_or_eq with below | same
        · exact .inl (below.trans_eq equal)
        · exact .inr ⟨closed, same.trans equal⟩

/-- A number between two that are admitted is admitted. -/
theorem IsFinite.admits_between (finite : b.IsFinite) {first last : Int} (low : b.LowAdmits first)
    (high : b.HighAdmits last) (after : first ≤ n) (before : n ≤ last) : b.Admits n :=
  ⟨finite.lowAdmits_mono low after, finite.highAdmits_anti high before⟩

end RouteDocs.Bounds
