import Mathlib.Data.List.Infix
import RouteDocs.Text.Cut

/-! Replacing one text by another wherever it occurs. -/

namespace RouteDocs.Text

variable {old new a b rest : List Char}

theorem startsWith_iff {s start : List Char} : startsWith s start = true ↔ start <+: s := by
  rw [startsWith, Option.isSome_iff_exists]
  exact exists_congr fun _ => dropStart?_eq_some.trans eq_comm

theorem replaceFrom_eq_replace_drop (skip : Nat) (s : List Char) :
    replaceFrom old new skip s = replace old new (s.drop skip) := by
  induction s generalizing skip with
  | nil => cases skip <;> rfl
  | cons c s induction =>
      cases skip with
      | zero => rfl
      | succ skip => exact induction skip

theorem replace_cons {c : Char} (other : ¬old <+: c :: rest) :
    replace old new (c :: rest) = c :: replace old new rest := by
  rw [replace, replaceFrom, if_neg (mt startsWith_iff.mp other), replace]

theorem replace_append_self (nonempty : old ≠ []) :
    replace old new (old ++ rest) = new ++ replace old new rest := by
  obtain ⟨c, tail, rfl⟩ := List.exists_cons_of_ne_nil nonempty
  have here : startsWith (c :: (tail ++ rest)) (c :: tail) = true :=
    startsWith_iff.mpr (List.prefix_append (c :: tail) rest)
  rw [List.cons_append, replace, replaceFrom, if_pos here, replaceFrom_eq_replace_drop]
  simp

/-- No occurrence of `old` begins in the first text where the second one follows. -/
def Spares (old : List Char) : List Char → List Char → Prop
  | [], _ => True
  | c :: a, rest => ¬old <+: c :: (a ++ rest) ∧ Spares old a rest

theorem spares_append :
    Spares old (a ++ b) rest ↔ Spares old a (b ++ rest) ∧ Spares old b rest := by
  induction a with
  | nil => simp [Spares]
  | cons c a induction => simp [Spares, induction, and_assoc]

theorem replace_append_of_spares (spares : Spares old a rest) :
    replace old new (a ++ rest) = a ++ replace old new rest := by
  induction a with
  | nil => rfl
  | cons c a induction =>
      obtain ⟨here, later⟩ := spares
      rw [List.cons_append, replace_cons here, induction later, List.cons_append]

theorem not_infix_of_spares (nonempty : old ≠ []) (spares : Spares old a []) : ¬old <:+: a := by
  rintro ⟨front, back, rfl⟩
  obtain ⟨c, tail, rfl⟩ := List.exists_cons_of_ne_nil nonempty
  rw [List.append_assoc, spares_append] at spares
  refine spares.2.1 ?_
  simp

/-- An occurrence neither lies within the text nor goes on behind it. -/
theorem spares_of_not_infix (free : ¬old <:+: a) (ends : ∀ c ∈ rest.head?, c ∉ old.tail) :
    Spares old a rest := by
  induction a with
  | nil => trivial
  | cons c a induction =>
      refine ⟨fun begins => ?_, induction fun within => free (List.infix_cons within)⟩
      rcases List.prefix_or_prefix_of_prefix begins (List.prefix_append (c :: a) rest) with
        within | ⟨tail, rfl⟩
      · exact free within.isInfix
      · have goesOn : tail <+: rest := by simpa using begins
        cases tail with
        | nil => exact free (by simp)
        | cons d tail =>
            obtain ⟨more, rfl⟩ := goesOn
            exact ends d rfl (by simp)

end RouteDocs.Text
