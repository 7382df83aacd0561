import RouteDocs.Proofs.Text.Pieces
import RouteDocs.Rule.Token

/-!
The rules of a text. Bars join them to the text again, and texts that bars join have the rules
of each, unless a pattern swallows a bar.
-/

namespace RouteDocs.Text

theorem cut_append {separator : Char} {front : List Char} (without : separator ∉ front)
    (back : List Char) : cut separator (front ++ separator :: back) = (front, some back) := by
  induction front with
  | nil => simp [cut]
  | cons c front induction =>
      obtain ⟨other, without⟩ := not_or.mp (mt List.mem_cons.mpr without)
      rw [List.cons_append, cut, if_neg (Ne.symm other), induction without]

theorem cut_of_not_mem {separator : Char} {s : List Char} (without : separator ∉ s) :
    cut separator s = (s, none) := by
  induction s with
  | nil => rfl
  | cons c rest induction =>
      obtain ⟨other, without⟩ := not_or.mp (mt List.mem_cons.mpr without)
      rw [cut, if_neg (Ne.symm other), induction without]

theorem mem_of_cut {separator : Char} {s front back : List Char}
    (parted : cut separator s = (front, some back)) {c : Char} (member : c ∈ back) : c ∈ s := by
  induction s generalizing front with
  | nil => cases parted
  | cons head rest induction =>
      rw [cut] at parted
      split at parted
      · cases parted
        exact List.mem_cons_of_mem head member
      · rcases later : cut separator rest with ⟨name, tail⟩
        rw [later] at parted
        cases parted
        exact List.mem_cons_of_mem head (induction later)

theorem toList_join (separator : String) (parts : List String) :
    (join separator parts).toList = joinWith separator.toList (parts.map String.toList) := by
  induction parts with
  | nil => simp [join, joinWith]
  | cons part rest induction =>
      cases rest with
      | nil => simp [join, joinWith]
      | cons next rest =>
          rw [join, String.intercalate_cons_cons, String.toList_append, String.toList_append,
            List.map_cons, joinWith_cons (by simp), ← induction, join]

end RouteDocs.Text

namespace RouteDocs.Rule

/-- A pattern rule with its parameter. -/
def isPatternCall (token : List Char) : Bool :=
  match Text.cut ':' token with
  | (name, some _) => isPatternRule name
  | (_, none) => false

theorem isPatternCall_append {name : List Char} (without : ':' ∉ name) (pattern : List Char) :
    isPatternCall (name ++ ':' :: pattern) = isPatternRule name := by
  rw [isPatternCall, Text.cut_append without]

section

variable {place : Place} {read : List Char}

theorem tokensFrom_ne_nil (rest : List Char) : tokensFrom place read rest ≠ [] := by
  induction rest generalizing place read with
  | nil => simp [tokensFrom]
  | cons c rest induction =>
      rw [tokensFrom]
      split
      · exact induction
      · split
        · exact List.cons_ne_nil _ _
        · split <;> exact induction

theorem tokensFrom_pattern (rest : List Char) :
    tokensFrom .pattern read rest = [read.reverse ++ rest] := by
  induction rest generalizing read with
  | nil => simp [tokensFrom]
  | cons c rest induction => simp [tokensFrom, induction]

theorem tokensFrom_of_no_bar {rest : List Char} (without : '|' ∉ rest) :
    tokensFrom place read rest = [read.reverse ++ rest] := by
  induction rest generalizing place read with
  | nil => simp [tokensFrom]
  | cons c rest induction =>
      obtain ⟨other, without⟩ := not_or.mp (mt List.mem_cons.mpr without)
      rw [tokensFrom, if_neg (Ne.symm other)]
      repeat' split
      all_goals simp [induction without]

theorem joinWith_tokensFrom (rest : List Char) :
    Text.joinWith ['|'] (tokensFrom place read rest) = read.reverse ++ rest := by
  induction rest generalizing place read with
  | nil => simp [tokensFrom, Text.joinWith]
  | cons c rest induction =>
      rw [tokensFrom]
      split
      · rw [induction, List.reverse_cons, List.append_assoc, List.singleton_append]
      · split
        · rename_i bar
          rw [Text.joinWith_cons (tokensFrom_ne_nil rest), induction, bar]
          simp
        · split <;> rw [induction, List.reverse_cons, List.append_assoc, List.singleton_append]

/-- A bar between texts is read as one, where no pattern is open. -/
theorem tokensFrom_append_bar {front : List Char} (open_ : place ≠ .pattern)
    (name : place = .name → ':' ∉ read)
    (plain : ∀ token ∈ tokensFrom place read front, isPatternCall token = false)
    (back : List Char) :
    tokensFrom place read (front ++ '|' :: back) =
      tokensFrom place read front ++ tokensFrom .name [] back := by
  induction front generalizing place read with
  | nil => simp [tokensFrom, open_]
  | cons c front induction =>
      rw [tokensFrom, if_neg open_] at plain
      rw [List.cons_append, tokensFrom, if_neg open_, tokensFrom, if_neg open_]
      by_cases bar : c = '|'
      · simp only [if_pos bar] at plain ⊢
        rw [induction (by decide) (by simp) fun token member =>
          plain token (List.mem_cons_of_mem _ member), List.cons_append]
      · simp only [if_neg bar] at plain ⊢
        by_cases colon : place = .name ∧ c = ':'
        · simp only [if_pos colon] at plain ⊢
          cases pattern : isPatternRule read.reverse with
          | true =>
              -- The rest of the text would be the pattern of a single rule.
              rw [pattern, if_pos rfl, tokensFrom_pattern, colon.2] at plain
              have call := plain _ (List.mem_singleton_self _)
              rw [List.reverse_cons, List.append_assoc, List.singleton_append,
                isPatternCall_append (by simpa using name colon.1), pattern] at call
              exact nomatch call
          | false =>
              rw [pattern, if_neg (by decide)] at plain
              rw [if_neg (by decide)]
              exact induction (by decide) (fun same => nomatch same) plain
        · simp only [if_neg colon] at plain ⊢
          refine induction open_ (fun same => ?_) plain
          have other : c ≠ ':' := fun equal => colon ⟨same, equal⟩
          exact List.not_mem_cons_of_ne_of_not_mem (Ne.symm other) (name same)

end

theorem join_tokens (text : String) : Text.join "|" (tokens text) = text := by
  apply String.toList_injective
  rw [Text.toList_join, tokens, List.map_map]
  have same : String.toList ∘ String.ofList = id := funext fun _ => String.toList_ofList
  rw [same, List.map_id]
  exact joinWith_tokensFrom text.toList

theorem tokens_of_blank {text : String} (blank : Text.isBlankText text.toList = true) :
    tokens text = [text] := by
  have without : '|' ∉ text.toList := fun member => by
    have white := List.all_eq_true.mp blank _ member
    exact absurd white (by decide)
  rw [tokens, tokensFrom_of_no_bar without]
  simp

theorem tokens_append_bar {front : String}
    (plain : ∀ token ∈ tokens front, isPatternCall token.toList = false) (back : String) :
    tokens (front ++ "|" ++ back) = tokens front ++ tokens back := by
  have chars : (front ++ "|" ++ back).toList = front.toList ++ '|' :: back.toList := by
    simp
  rw [tokens, chars, tokensFrom_append_bar (by decide) (by simp) fun token member => ?_,
    List.map_append]
  · rfl
  · have here := plain (String.ofList token) (List.mem_map_of_mem member)
    rwa [String.toList_ofList] at here

theorem tokens_join {texts : List String} (some_ : texts ≠ [])
    (plain : ∀ text ∈ texts.dropLast, ∀ token ∈ tokens text, isPatternCall token.toList = false) :
    tokens (Text.join "|" texts) = texts.flatMap tokens := by
  induction texts with
  | nil => exact absurd rfl some_
  | cons text rest induction =>
      cases rest with
      | nil => simp [Text.join]
      | cons next rest =>
          have later := induction (by simp) fun text member =>
            plain text (by simp [List.dropLast, member])
          rw [Text.join, String.intercalate_cons_cons,
            tokens_append_bar (plain text (by simp [List.dropLast])), List.flatMap_cons, ← later,
            Text.join]

end RouteDocs.Rule
