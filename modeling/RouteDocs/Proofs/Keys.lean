import Mathlib.Data.List.Induction
import Mathlib.Data.List.Nodup

/-! Lists whose members differ, in a key or altogether. -/

namespace RouteDocs.Keys

variable {α κ : Type} [BEq κ] [LawfulBEq κ] {key : α → κ}

theorem find?_of_mem {members : List α} (distinct : (members.map key).Nodup) {a : α}
    (member : a ∈ members) : (members.find? fun other => key other == key a) = some a := by
  induction members with
  | nil => simp at member
  | cons head tail induction =>
      rw [List.map_cons, List.nodup_cons] at distinct
      rcases List.mem_cons.mp member with rfl | member
      · simp
      · have different : key head ≠ key a := fun same =>
          distinct.1 (same ▸ List.mem_map_of_mem member)
        rw [List.find?_cons_of_neg (by simpa using different)]
        exact induction distinct.2 member

/-! Lists without repetition. -/

theorem eraseDups_concat [DecidableEq α] (members : List α) (a : α) :
    (members ++ [a]).eraseDups =
      if a ∈ members.eraseDups then members.eraseDups else members.eraseDups ++ [a] := by
  rw [List.eraseDups_append]
  by_cases known : a ∈ members
  · rw [if_pos (List.mem_eraseDups.mpr known)]
    simp [known, List.removeAll]
  · rw [if_neg fun member => known (List.mem_eraseDups.mp member)]
    simp [known, List.removeAll, List.eraseDups_cons]

theorem nodup_eraseDups [DecidableEq α] (members : List α) : members.eraseDups.Nodup := by
  induction members using List.reverseRecOn with
  | nil => exact List.nodup_nil
  | append_singleton members a induction =>
      rw [eraseDups_concat]
      split
      · exact induction
      · exact List.nodup_append.mpr ⟨induction, List.nodup_singleton a, by
          rintro known member _ last rfl
          rw [List.mem_singleton.mp last] at member
          contradiction⟩

end RouteDocs.Keys
