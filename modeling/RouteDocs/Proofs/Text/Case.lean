import RouteDocs.Text.Blank
import RouteDocs.Text.Case

/-! Letters and digits of ASCII. -/

namespace RouteDocs.Text

def IsAscii (s : List Char) : Prop := ∀ c ∈ s, c.toNat < 128

instance (s : List Char) : Decidable (IsAscii s) :=
  decidable_of_iff (s.all fun c => c.toNat < 128) (by simp [IsAscii])

/-- What holds of the codes of ASCII holds of its characters. -/
@[elab_as_elim]
theorem forall_ascii {p : Char → Prop} {c : Char} (ascii : c.toNat < 128)
    (all : ∀ code < 128, p (Char.ofNat code)) : p c := by
  have here := all c.toNat ascii
  rwa [Char.ofNat_toNat] at here

theorem toLower_toUpper {c : Char} (ascii : c.toNat < 128) :
    c.toUpper.toNat < 128 ∧ c.toUpper.toLower = c.toLower :=
  forall_ascii ascii (by decide)

theorem toLower_of_ascii {c : Char} (ascii : c.toNat < 128) :
    c.toLower.toNat < 128 ∧ c.toLower.isUpper = false ∧ (c.toLower = '-' ↔ c = '-') ∧
      isBlank c.toLower = isBlank c :=
  forall_ascii ascii (by decide)

theorem toLower_of_not_isUpper {c : Char} (ascii : c.toNat < 128) :
    c.isUpper = false → c.toLower = c :=
  forall_ascii ascii (by decide)

theorem toNat_lt_of_isAlphanum {c : Char} (letter : c.isAlphanum = true) : c.toNat < 128 := by
  have below : ∀ last : Char, last.toNat < 128 → c.val ≤ last.val → c.toNat < 128 :=
    fun _ small within => Nat.lt_of_le_of_lt (UInt32.le_iff_toNat_le.mp within) small
  rcases Bool.or_eq_true_iff.mp letter with letter | digit
  · rcases Bool.or_eq_true_iff.mp letter with capital | small
    · exact below 'Z' (by decide) (of_decide_eq_true capital).2
    · exact below 'z' (by decide) (of_decide_eq_true (Bool.and_eq_true_iff.mp small).2)
  · exact below '9' (by decide) (of_decide_eq_true (Bool.and_eq_true_iff.mp digit).2)

theorem not_isBlank_of_isAlphanum {c : Char} (letter : c.isAlphanum = true) :
    isBlank c = false ∧ isLineBreak c = false := by
  have ascii := toNat_lt_of_isAlphanum letter
  revert letter
  exact forall_ascii ascii (by decide)

theorem isAlphanum_of_isDigit {c : Char} (digit : c.isDigit = true) : c.isAlphanum = true := by
  rw [Char.isAlphanum, digit, Bool.or_true]

theorem toLower_of_isDigit {c : Char} (digit : c.isDigit = true) : c.toLower = c := by
  have ascii := toNat_lt_of_isAlphanum (isAlphanum_of_isDigit digit)
  revert digit
  exact forall_ascii ascii (by decide)

theorem map_toLower_of_no_capital {s : List Char} (ascii : IsAscii s)
    (plain : ∀ c ∈ s, c.isUpper = false) : s.map Char.toLower = s :=
  (List.map_congr_left fun c member =>
    toLower_of_not_isUpper (ascii c member) (plain c member)).trans (List.map_id s)

theorem lowerFrom_ascii (before : List Char) {s : List Char} (ascii : IsAscii s) :
    lowerFrom before s = s.map Char.toLower := by
  induction s generalizing before with
  | nil => rfl
  | cons c rest induction =>
      have here : c.toNat < 128 := ascii c List.mem_cons_self
      have noSigma : (c.toNat == 0x3a3) = false := beq_false_of_ne (by omega)
      rw [lowerFrom, noSigma, if_neg Bool.false_ne_true, lowerChar, if_pos here,
        induction (c :: before) fun other member => ascii other (List.mem_cons_of_mem c member)]
      rfl

theorem lowerChars_ascii {s : List Char} (ascii : IsAscii s) : lowerChars s = s.map Char.toLower :=
  lowerFrom_ascii [] ascii

end RouteDocs.Text
