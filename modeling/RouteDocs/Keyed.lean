/-! Lists of values under keys, in the order in which the keys came. -/

namespace RouteDocs.Keyed

variable {κ α : Type}

/-- The value for a key is replaced in its place, or a new entry comes last. -/
def putBy (same : κ → κ → Bool) (key : κ) (value : α) : List (κ × α) → List (κ × α)
  | [] => [(key, value)]
  | (k, v) :: rest => if same k key then (k, value) :: rest else (k, v) :: putBy same key value rest

def put [BEq κ] (key : κ) (value : α) (entries : List (κ × α)) : List (κ × α) :=
  putBy (· == ·) key value entries

theorem lookup_put [BEq κ] [LawfulBEq κ] (key other : κ) (value : α) (entries : List (κ × α)) :
    (put key value entries).lookup other =
      if other == key then some value else entries.lookup other := by
  induction entries with
  | nil => cases h : other == key <;> simp [put, putBy, List.lookup_cons, h]
  | cons entry rest ih =>
    obtain ⟨k, v⟩ := entry
    simp only [put, putBy] at ih ⊢
    by_cases hk : (k == key) = true
    · rw [if_pos hk, eq_of_beq hk]
      cases h : other == key <;> simp [List.lookup_cons, h]
    · rw [if_neg hk]
      cases h : other == k
      · simp [List.lookup_cons, h, ih]
      · rw [eq_of_beq h]
        simp [hk]

end RouteDocs.Keyed
