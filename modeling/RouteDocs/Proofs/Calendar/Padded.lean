import Mathlib.Algebra.GroupWithZero.Nat
import RouteDocs.Calendar.Iso

/-! Numbers with zeros in front: how long they are, and that they are read back. -/

namespace RouteDocs.Iso

theorem digits_padded {width n : Nat} : ∀ c ∈ padded width n, c.isDigit = true := by
  intro c member
  rcases List.mem_append.mp member with zero | digit
  · rw [List.eq_of_mem_replicate zero]
    rfl
  · exact Nat.isDigit_of_mem_toDigits (by decide) (by decide) digit

theorem not_mem_padded {c : Char} (other : c.isDigit = false) {width n : Nat} :
    c ∉ padded width n := by
  intro member
  rw [digits_padded c member] at other
  cases other

section

variable {width n : Nat}

theorem length_padded (positive : 0 < width) (short : n < 10 ^ width) :
    (padded width n).length = width := by
  have fits : (Nat.toDigits 10 n).length ≤ width :=
    (Nat.length_toDigits_le_iff (by decide) positive).mpr short
  rw [padded, List.length_append, List.length_replicate, Nat.sub_add_cancel fits]

theorem padded_ne_nil : padded width n ≠ [] :=
  List.append_ne_nil_of_right_ne_nil _ Nat.toDigits_ne_nil

theorem digit_head_padded (rest : List Char) :
    ∀ c ∈ (padded width n ++ rest).head?, c.isDigit = true := by
  obtain ⟨d, digits, written⟩ := List.exists_cons_of_ne_nil (@padded_ne_nil width n)
  have first : d ∈ padded width n := by simp [written]
  rw [written]
  intro c here
  cases here
  exact digits_padded d first

theorem digit_last_padded (front : List Char) :
    ∀ c ∈ (front ++ padded width n).getLast?, c.isDigit = true := by
  intro c member
  rw [List.getLast?_append] at member
  cases last : (padded width n).getLast? with
  | none => exact absurd (List.getLast?_eq_none_iff.mp last) padded_ne_nil
  | some d =>
      rw [last] at member
      cases member
      exact digits_padded c (List.mem_of_getLast? last)

theorem padded_of_long (long : width ≤ (Nat.toDigits 10 n).length) :
    padded width n = Nat.toDigits 10 n := by
  rw [padded, Nat.sub_eq_zero_of_le long]
  rfl

theorem value_padded : Nat.ofDigitChars 10 (padded width n) 0 = n := by
  rw [padded, Nat.ofDigitChars_append, Nat.ofDigitChars_replicate_zero, Nat.mul_zero,
    Nat.ofDigitChars_toDigits (by decide) (by decide)]

theorem readDigits_append {digits : List Char} (all : ∀ c ∈ digits, c.isDigit = true)
    (value : Nat) (rest : List Char) :
    readDigits value digits.length (digits ++ rest) =
      some (Nat.ofDigitChars 10 digits value, rest) := by
  induction digits generalizing value with
  | nil => rfl
  | cons c digits induction =>
      obtain ⟨here, all⟩ := List.forall_mem_cons.mp all
      rw [List.length_cons, List.cons_append, readDigits, if_pos here, induction all,
        Nat.ofDigitChars_cons]
      rfl

theorem readDigits_padded (positive : 0 < width) (short : n < 10 ^ width) (rest : List Char) :
    readDigits 0 width (padded width n ++ rest) = some (n, rest) := by
  have read := readDigits_append (@digits_padded width n) 0 rest
  rwa [length_padded positive short, value_padded] at read

end

theorem not_mem_writeOffset {c : Char} (other : c.isDigit = false)
    (noSign : c ∉ ['+', '-', ':', '.']) (offset : Option Int) : c ∉ writeOffset offset := by
  cases offset with
  | none => exact List.not_mem_nil
  | some offset =>
      obtain ⟨plus, minus, colon, point⟩ : c ≠ '+' ∧ c ≠ '-' ∧ c ≠ ':' ∧ c ≠ '.' := by
        simpa using noSign
      have sign : c ≠ if offset < 0 then '-' else '+' := by
        split <;> assumption
      simp only [writeOffset, writeFraction, List.mem_cons, List.mem_append, not_or]
      refine ⟨sign, ⟨not_mem_padded other, colon, not_mem_padded other⟩, ?_, ?_⟩
      · split
        · exact List.not_mem_nil
        · exact List.not_mem_cons_of_ne_of_not_mem colon (not_mem_padded other)
      · split
        · exact List.not_mem_nil
        · exact List.not_mem_cons_of_ne_of_not_mem point (not_mem_padded other)

end RouteDocs.Iso
