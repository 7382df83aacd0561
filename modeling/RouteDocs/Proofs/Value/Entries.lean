import Mathlib.Data.List.Basic
import Mathlib.Data.List.Induction
import RouteDocs.Value.Basic

/-! Mappings whose keys differ. -/

namespace RouteDocs.Value

theorem same_text (first second : String) :
    same (.text first) (.text second) = (first == second) := by
  simp [same, bare]

theorem putBy_of_fresh {key value : Value} {made : List (Value × Value)}
    (fresh : ∀ known ∈ made, known.1.same key = false) :
    Keyed.putBy same key value made = made ++ [(key, value)] := by
  induction made with
  | nil => rfl
  | cons known rest induction =>
      rw [Keyed.putBy, if_neg (by simp [fresh known (by simp)]),
        induction fun other member => fresh other (List.mem_cons_of_mem _ member)]
      rfl

theorem ofEntries_of_distinct {entries : List (Value × Value)}
    (distinct : entries.Pairwise fun first second => first.1.same second.1 = false) :
    ofEntries entries = entries := by
  induction entries using List.reverseRecOn with
  | nil => rfl
  | append_singleton entries last induction =>
      obtain ⟨front, _, apart⟩ := List.pairwise_append.mp distinct
      have made := induction front
      rw [ofEntries] at made ⊢
      rw [List.foldl_concat, made]
      exact putBy_of_fresh fun known member => apart known member last (by simp)

/-! Whatever the keys of the entries, those of the mapping differ. -/

theorem keys_putBy (key value : Value) (made : List (Value × Value)) :
    (Keyed.putBy same key value made).map Prod.fst =
      if made.any fun known => known.1.same key then made.map Prod.fst
      else made.map Prod.fst ++ [key] := by
  induction made with
  | nil => rfl
  | cons known rest induction =>
      rw [Keyed.putBy, List.any_cons]
      cases here : known.1.same key with
      | true => rfl
      | false =>
          rw [if_neg Bool.false_ne_true, List.map_cons, induction, Bool.false_or]
          split <;> rfl

theorem pairwise_keys_ofEntries (entries : List (Value × Value)) :
    ((ofEntries entries).map Prod.fst).Pairwise fun first second => first.same second = false := by
  induction entries using List.reverseRecOn with
  | nil => exact .nil
  | append_singleton entries last induction =>
      rw [ofEntries, List.foldl_concat, ← ofEntries, keys_putBy]
      split
      · exact induction
      · rename_i fresh
        refine List.pairwise_append.mpr ⟨induction, List.pairwise_singleton _ _, ?_⟩
        intro known member key among
        obtain ⟨entry, found, rfl⟩ := List.mem_map.mp member
        rw [List.mem_singleton.mp among]
        simpa using fun equal => fresh (List.any_eq_true.mpr ⟨entry, found, equal⟩)

end RouteDocs.Value
