import Mathlib.Data.List.DropRight
import RouteDocs.Number.Basic

/-! Natural numbers that are written in digits alone, and how they are read. -/

namespace RouteDocs

/-! Reading digits. -/

namespace Literal

variable {s : List Char}

theorem readDigitsFrom_digits (digits : ∀ c ∈ s, c.isDigit = true) (value count : Nat)
    (last : Bool) :
    ∃ after, readDigitsFrom value count last s =
      (Nat.ofDigitChars 10 s value, count + s.length, after, []) := by
  induction s generalizing value count last with
  | nil => exact ⟨last, rfl⟩
  | cons c rest induction =>
      obtain ⟨here, digits⟩ := List.forall_mem_cons.mp digits
      obtain ⟨after, read⟩ := induction digits (10 * value + (c.toNat - 0x30)) (count + 1) true
      have counted : count + (rest.length + 1) = count + 1 + rest.length := by omega
      refine ⟨after, ?_⟩
      rw [readDigitsFrom.eq_def, Nat.ofDigitChars_cons, List.length_cons, counted]
      dsimp only
      rw [if_pos here, read]
      rfl

theorem readDigits_digits (digits : ∀ c ∈ s, c.isDigit = true) :
    readDigits s = (Nat.ofDigitChars 10 s 0, s.length, []) := by
  obtain ⟨after, read⟩ := readDigitsFrom_digits digits 0 0 false
  rw [readDigits, read, Nat.zero_add]

theorem toAscii_digits (digits : ∀ c ∈ s, c.isDigit = true) : toAscii s = s := by
  refine if_pos (List.all_eq_true.mpr fun c member => ?_)
  have most : c.toNat ≤ 57 := (Char.isDigit_iff_toNat.mp (digits c member)).2
  exact decide_eq_true (by omega)

/-- Nothing is dropped from around a text without blanks. -/
theorem dropAround_eq {blank : Char → Bool} (full : ∀ c ∈ s, blank c = false) :
    ((s.dropWhile blank).reverse.dropWhile blank).reverse = s := by
  have front : s.dropWhile blank = s :=
    List.dropWhile_eq_self_iff.mpr fun some_ => by simp [full _ (List.getElem_mem some_)]
  have back : s.rdropWhile blank = s :=
    List.rdropWhile_eq_self_iff.mpr fun some_ => by simp [full _ (List.getLast_mem some_)]
  rw [front]
  exact back

theorem isAsciiBlank_digit {c : Char} (digit : c.isDigit = true) : isAsciiBlank c = false := by
  have least : 48 ≤ c.toNat := (Char.isDigit_iff_toNat.mp digit).1
  have other : c ≠ ' ' := by
    rintro rfl
    cases digit
  have beyond : ¬ c ≤ '\r' := by
    rw [Char.le_def, UInt32.le_iff_toNat_le]
    exact Nat.not_le.mpr (Nat.lt_of_lt_of_le (by decide) least)
  rw [isAsciiBlank, beq_false_of_ne other, decide_eq_false beyond, Bool.and_false, Bool.or_false]

theorem dropBlanks_digits (digits : ∀ c ∈ s, c.isDigit = true) : dropBlanks s = s :=
  dropAround_eq fun c member => isAsciiBlank_digit (digits c member)

theorem trimChars_digits (digits : ∀ c ∈ s, c.isDigit = true) : Text.trimChars s = s := by
  refine dropAround_eq fun c member => ?_
  obtain ⟨least, most⟩ := Char.isDigit_iff_toNat.mp (digits c member)
  have least : 48 ≤ c.toNat := least
  have most : c.toNat ≤ 57 := most
  simp [Text.isBlank]
  omega

theorem readSign_digits (digits : ∀ c ∈ s, c.isDigit = true) : readSign s = (false, s) := by
  unfold readSign
  split
  · cases digits '-' (by simp)
  · cases digits '+' (by simp)
  · rfl

theorem readInt?_digits (some_ : s ≠ []) (digits : ∀ c ∈ s, c.isDigit = true)
    (short : s.length ≤ digitLimit) : readInt? s = some (Nat.ofDigitChars 10 s 0 : Int) := by
  rw [readInt?, toAscii_digits digits, dropBlanks_digits digits, readSign_digits digits]
  dsimp only
  rw [readDigits_digits digits]
  dsimp only
  rw [if_neg, if_neg Bool.false_ne_true]
  simp [some_, short]

end Literal

/-! Numbers and their digits. -/

/-- Digits that have the value, no more of them than are read. -/
structure Decimal (text : String) (n : Nat) : Prop where
  some_ : text.toList ≠ []
  digits : ∀ c ∈ text.toList, c.isDigit = true
  short : text.toList.length ≤ Literal.digitLimit
  value : Nat.ofDigitChars 10 text.toList 0 = n

theorem decimal_repr {n : Nat} (short : Double.decimalLength n ≤ Literal.digitLimit) :
    Decimal n.repr n where
  some_ := by
    rw [Nat.toList_repr]
    exact Nat.toDigits_ne_nil
  digits c member := by
    rw [Nat.toList_repr] at member
    exact Nat.isDigit_of_mem_toDigits (by decide) (by decide) member
  short := by
    rwa [Nat.toList_repr]
  value := by
    rw [Nat.toList_repr]
    exact Nat.ofDigitChars_toDigits (by decide) (by decide)

theorem Decimal.ofText? {text : String} {n : Nat} (written : Decimal text n) :
    Number.ofText? text = some (.int n) := by
  rw [Number.ofText?, Literal.readInt?_digits written.some_ written.digits written.short,
    written.value]

end RouteDocs
