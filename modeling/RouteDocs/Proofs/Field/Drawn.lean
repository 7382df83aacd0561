import RouteDocs.Field.Sampler

/-! What the draws of a source are relied on for, and that the counting source keeps to it. -/

namespace RouteDocs.Sampler

/-- Integers come from between their bounds. -/
def DrawsBetween (s : Sampler) : Prop :=
  ∀ low high draw, low ≤ high → low ≤ s.integer low high draw ∧ s.integer low high draw ≤ high

/-- As many items of a list, or as many letters, as are asked for. -/
structure DrawsAsMany (s : Sampler) : Prop where
  length_choose : ∀ items count draw, items ≠ [] → (s.choose items count draw).length = count
  mem_choose : ∀ items count draw, ∀ item ∈ s.choose items count draw, item ∈ items
  length_letters : ∀ count draw, (s.letters count draw).length = count

theorem index_lt {count : Nat} (positive : 0 < count) (draw : Int) : index draw count < count := by
  have low := Int.emod_nonneg draw (show (count : Int) ≠ 0 by omega)
  have high := Int.emod_lt_of_pos draw (show (0 : Int) < count by omega)
  unfold index
  omega

section

variable {α : Type} (items : List α) (draw : Int) (count : Nat)

theorem length_rotate (some_ : items ≠ []) : (rotate items draw count).length = count := by
  have present : ∀ i ∈ List.range count,
      (items[index (draw + (i : Nat)) items.length]?).isSome = true := by
    intro i _
    rw [List.getElem?_eq_getElem (index_lt (List.length_pos_iff.mpr some_) _)]
    rfl
  rw [rotate, List.length_filterMap_eq_countP, List.countP_eq_length.mpr present,
    List.length_range]

theorem mem_of_mem_rotate {item : α} (member : item ∈ rotate items draw count) : item ∈ items := by
  obtain ⟨i, _, found⟩ := List.mem_filterMap.mp member
  exact List.mem_of_getElem? found

end

variable (locale : String)

theorem drawsBetween_counting : (counting locale).DrawsBetween := by
  intro low high draw ordered
  have positive : 0 < high - low + 1 := by omega
  have least := Int.emod_nonneg draw (Int.ne_of_gt positive)
  have most := Int.emod_lt_of_pos draw positive
  show low ≤ low + draw % (high - low + 1) ∧ low + draw % (high - low + 1) ≤ high
  omega

theorem drawsAsMany_counting : (counting locale).DrawsAsMany where
  length_choose items count draw some_ := length_rotate items draw count some_
  mem_choose items count draw _ member := mem_of_mem_rotate items draw count member
  length_letters count draw := by
    have some_ : alphabet ≠ [] := by decide
    exact String.length_ofList.trans (length_rotate alphabet draw count some_)

end RouteDocs.Sampler
