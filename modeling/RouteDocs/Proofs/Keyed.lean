import Mathlib.Algebra.GroupWithZero.Nat
import Mathlib.Data.List.Nodup
import RouteDocs.Keyed

/-! What putting a value under a key does to the other entries. -/

namespace RouteDocs.Keyed

variable {κ α : Type} [BEq κ]

theorem mem_put {key : κ} {value : α} {entries : List (κ × α)} {entry : κ × α}
    (member : entry ∈ put key value entries) : entry.2 = value ∨ entry ∈ entries := by
  induction entries with
  | nil =>
      rw [List.mem_singleton.mp member]
      exact .inl rfl
  | cons known rest induction =>
      simp only [put, putBy] at induction member
      split at member
      · rcases List.mem_cons.mp member with here | there
        · rw [here]
          exact .inl rfl
        · exact .inr (List.mem_cons_of_mem _ there)
      · rcases List.mem_cons.mp member with here | there
        · rw [here]
          exact .inr List.mem_cons_self
        · rcases induction there with new | old
          · exact .inl new
          · exact .inr (List.mem_cons_of_mem _ old)

variable [LawfulBEq κ]

theorem put_cons_self (key : κ) (held value : α) (rest : List (κ × α)) :
    put key value ((key, held) :: rest) = (key, value) :: rest := by
  rw [put, putBy, if_pos (beq_self_eq_true key)]

theorem put_cons_of_ne {key known : κ} (other : known ≠ key) (held value : α)
    (rest : List (κ × α)) :
    put key value ((known, held) :: rest) = (known, held) :: put key value rest := by
  rw [put, putBy, if_neg (by simpa using other)]
  rfl

theorem lookup_cons_of_ne {key known : κ} (other : known ≠ key) (held : α)
    (rest : List (κ × α)) : ((known, held) :: rest).lookup key = rest.lookup key := by
  rw [List.lookup_cons, beq_false_of_ne (Ne.symm other)]

theorem lookup_isSome_iff {entries : List (κ × α)} {key : κ} :
    (entries.lookup key).isSome ↔ key ∈ entries.map Prod.fst := by
  induction entries with
  | nil => simp
  | cons entry rest induction =>
      obtain ⟨known, held⟩ := entry
      rw [List.map_cons, List.mem_cons]
      by_cases here : known = key
      · subst here
        simp
      · rw [lookup_cons_of_ne here, induction]
        exact ⟨.inr, fun either => either.resolve_left (Ne.symm here)⟩

theorem mem_of_lookup {entries : List (κ × α)} {key : κ} {value : α}
    (found : entries.lookup key = some value) : (key, value) ∈ entries := by
  obtain ⟨earlier, later, rfl, -⟩ := List.lookup_eq_some_iff.mp found
  exact List.mem_append_right _ List.mem_cons_self

theorem lookup_of_mem {entries : List (κ × α)} (distinct : (entries.map Prod.fst).Nodup)
    {key : κ} {value : α} (member : (key, value) ∈ entries) :
    entries.lookup key = some value := by
  induction entries with
  | nil => cases member
  | cons entry rest induction =>
      obtain ⟨known, held⟩ := entry
      rw [List.map_cons, List.nodup_cons] at distinct
      rcases List.mem_cons.mp member with here | there
      · cases here
        exact List.lookup_cons_self
      · have other : known ≠ key := by
          rintro rfl
          exact distinct.1 (List.mem_map.mpr ⟨_, there, rfl⟩)
        rw [lookup_cons_of_ne other]
        exact induction distinct.2 there

/-! Values that are all changed in their places. -/

theorem lookup_map {β : Type} (f : α → β) (entries : List (κ × α)) (key : κ) :
    (entries.map fun entry => (entry.1, f entry.2)).lookup key = (entries.lookup key).map f := by
  induction entries with
  | nil => rfl
  | cons entry rest induction =>
      obtain ⟨known, held⟩ := entry
      by_cases here : known = key
      · subst here
        rw [List.map_cons, List.lookup_cons_self, List.lookup_cons_self]
        rfl
      · rw [List.map_cons, lookup_cons_of_ne here, lookup_cons_of_ne here, induction]

theorem put_map {β : Type} (f : α → β) (key : κ) (value : α) (entries : List (κ × α)) :
    (put key value entries).map (fun entry => (entry.1, f entry.2)) =
      put key (f value) (entries.map fun entry => (entry.1, f entry.2)) := by
  induction entries with
  | nil => rfl
  | cons entry rest induction =>
      obtain ⟨known, held⟩ := entry
      by_cases here : known = key
      · subst here
        rw [List.map_cons, put_cons_self, put_cons_self, List.map_cons]
      · rw [List.map_cons, put_cons_of_ne here, put_cons_of_ne here, List.map_cons, induction]

theorem keys_put (key : κ) (value : α) (entries : List (κ × α)) :
    (put key value entries).map Prod.fst =
      if (entries.lookup key).isSome then entries.map Prod.fst
      else entries.map Prod.fst ++ [key] := by
  induction entries with
  | nil => rfl
  | cons entry rest induction =>
      obtain ⟨known, held⟩ := entry
      by_cases here : known = key
      · subst here
        rw [put_cons_self]
        simp
      · rw [put_cons_of_ne here, lookup_cons_of_ne here, List.map_cons, induction]
        split <;> rfl

/-- A sum over the values changes by what the value for the key weighs more. -/
theorem sum_put (weight : α → Nat) (key : κ) (value : α) (entries : List (κ × α)) :
    ((put key value entries).map fun entry => weight entry.2).sum +
        ((entries.lookup key).map weight).getD 0 =
      (entries.map fun entry => weight entry.2).sum + weight value := by
  induction entries with
  | nil => simp [put, putBy]
  | cons entry rest induction =>
      obtain ⟨known, held⟩ := entry
      by_cases here : known = key
      · subst here
        rw [put_cons_self]
        simp only [List.lookup_cons, beq_self_eq_true, List.map_cons, List.sum_cons,
          Option.map_some, Option.getD_some]
        omega
      · rw [put_cons_of_ne here, lookup_cons_of_ne here, List.map_cons, List.map_cons,
          List.sum_cons, List.sum_cons]
        omega

end RouteDocs.Keyed
