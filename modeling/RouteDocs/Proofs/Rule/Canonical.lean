import RouteDocs.Proofs.Rule.Calls
import RouteDocs.Rule.Catalogue

/-!
Calls in the form in which they are listed. A listed call is a single rule, and it is read as the
call that it lists.
-/

namespace RouteDocs.Rule

/-! Names of the catalogue. -/

/-- The name is spelled as names are spelled in the catalogue. -/
structure PlainName (name : List Char) : Prop where
  normal : normalizeChars name = name
  no_colon : ':' ∉ name
  no_bar : '|' ∉ name
  full : Text.isBlankText name = false

theorem plainName_of_mem {rule : Rule} (member : rule ∈ catalogue) :
    PlainName rule.name.toList := by
  have all : (catalogue.all fun rule =>
      decide (normalizeChars rule.name.toList = rule.name.toList) &&
        (!rule.name.toList.contains ':' && !rule.name.toList.contains '|' &&
          !Text.isBlankText rule.name.toList)) = true := by
    decide +kernel
  have here := List.all_eq_true.mp all rule member
  simp only [Bool.and_eq_true, decide_eq_true_eq, Bool.not_eq_true', List.contains_eq_mem,
    decide_eq_false_iff_not] at here
  exact ⟨here.1, here.2.1.1, here.2.1.2, here.2.2⟩

theorem plainName_of_find? {name : String} {rule : Rule} (known : find? name = some rule) :
    PlainName name.toList := by
  have same : rule.name = name := by
    have found := List.find?_some known
    exact eq_of_beq found
  rw [← same]
  exact plainName_of_mem (List.mem_of_find?_eq_some known)

/-! Bars in tokens. -/

/-- A bar is in the pattern of a rule, or in no rule. -/
theorem bar_of_mem_tokensFrom {place : Place} {read rest token : List Char}
    (bars : place ≠ .pattern → '|' ∉ read) (colons : place = .name → ':' ∉ read)
    (pattern : place = .pattern → ∀ more, isPatternCall (read.reverse ++ more) = true)
    (member : token ∈ tokensFrom place read rest) (bar : '|' ∈ token) :
    isPatternCall token = true := by
  -- What was read of the token has a bar only if a pattern is open, and a colon only behind its
  -- name.
  induction rest generalizing place read with
  | nil =>
      rw [tokensFrom, List.mem_singleton] at member
      subst member
      by_cases open_ : place = .pattern
      · have call := pattern open_ []
        rwa [List.append_nil] at call
      · exact absurd (List.mem_reverse.mp bar) (bars open_)
  | cons c rest induction =>
      rw [tokensFrom] at member
      split at member
      · rename_i open_
        refine induction ?_ ?_ ?_ member
        · exact fun other => absurd rfl other
        · intro name
          cases name
        · intro _ more
          have call := pattern open_ (c :: more)
          rwa [List.reverse_cons, List.append_assoc, List.singleton_append]
      · rename_i open_
        split at member
        · rcases List.mem_cons.mp member with rfl | member
          · exact absurd (List.mem_reverse.mp bar) (bars open_)
          · refine induction ?_ ?_ ?_ member
            · exact fun _ => List.not_mem_nil
            · exact fun _ => List.not_mem_nil
            · intro opens
              cases opens
        · rename_i other
          have later : place ≠ .pattern → '|' ∉ c :: read := fun open_ =>
            List.not_mem_cons_of_ne_of_not_mem (Ne.symm other) (bars open_)
          split at member
          · rename_i colon
            refine induction (fun _ => later open_) ?_ ?_ member
            · intro name
              split at name <;> cases name
            · intro opens more
              have named : isPatternRule read.reverse = true := by
                by_contra none_
                rw [if_neg none_] at opens
                cases opens
              rw [List.reverse_cons, List.append_assoc, List.singleton_append, colon.2,
                isPatternCall_append (by simpa using colons colon.1), named]
          · rename_i plain
            refine induction later (fun name => ?_) (fun same => absurd same open_) member
            have differs : c ≠ ':' := fun equal => plain ⟨name, equal⟩
            exact List.not_mem_cons_of_ne_of_not_mem (Ne.symm differs) (colons name)

theorem isPatternCall_of_bar {text token : String} (member : token ∈ tokens text)
    (bar : '|' ∈ token.toList) : isPatternCall token.toList = true := by
  obtain ⟨chars, among, rfl⟩ := List.mem_map.mp member
  rw [String.toList_ofList] at bar ⊢
  refine bar_of_mem_tokensFrom ?_ ?_ ?_ among bar
  · exact fun _ => List.not_mem_nil
  · exact fun _ => List.not_mem_nil
  · intro opens
    cases opens

/-- A pattern reaches to the end of the text. -/
theorem tokensFrom_pattern_rule {name : List Char} {read : List Char} (no_bar : '|' ∉ name)
    (no_colon : ':' ∉ name) (named : isPatternRule (read.reverse ++ name) = true)
    (pattern : List Char) :
    tokensFrom .name read (name ++ ':' :: pattern) = [read.reverse ++ name ++ ':' :: pattern] := by
  induction name generalizing read with
  | nil =>
      rw [List.append_nil] at named
      simp [tokensFrom, named, tokensFrom_pattern]
  | cons c name induction =>
      obtain ⟨other, no_bar⟩ := not_or.mp (mt List.mem_cons.mpr no_bar)
      obtain ⟨differs, no_colon⟩ := not_or.mp (mt List.mem_cons.mpr no_colon)
      rw [List.cons_append, tokensFrom, if_neg (by decide), if_neg (Ne.symm other),
        if_neg fun colon => differs colon.2.symm,
        induction no_bar no_colon (by simpa using named)]
      simp

/-! Calls. -/

theorem isPatternRule_normalizeChars {name : List Char}
    (normal : normalizeChars (normalizeChars name) = normalizeChars name) :
    isPatternRule (normalizeChars name) = isPatternRule name := by
  rw [isPatternRule, isPatternRule, normal]

namespace Call

/-! Texts as they are read. -/

section

variable {token : String} {name text : List Char}

theorem ofToken_name_only (cut : Text.cut ':' token.toList = (name, none)) :
    ofToken token = { name := String.ofList (normalizeChars name) } := by
  simp [ofToken, cut]

theorem ofToken_pattern (cut : Text.cut ':' token.toList = (name, some text))
    (pattern : isPatternRule name = true) :
    ofToken token =
      { name := String.ofList (normalizeChars name), parameters := [String.ofList text] } := by
  simp [ofToken, cut, pattern]

theorem ofToken_list (cut : Text.cut ':' token.toList = (name, some text))
    (list : isPatternRule name = false) :
    ofToken token =
      { name := String.ofList (normalizeChars name)
        parameters :=
          (Text.splitAt ',' text).map fun piece => String.ofList (Text.trimChars piece) } := by
  simp [ofToken, cut, list]

end

theorem name_ofToken (token : String) :
    (ofToken token).name.toList = normalizeChars (Text.cut ':' token.toList).1 := by
  rcases cut : Text.cut ':' token.toList with ⟨name, _ | list⟩
  · rw [ofToken_name_only cut, String.toList_ofList]
  · cases pattern : isPatternRule name with
    | true => rw [ofToken_pattern cut pattern, String.toList_ofList]
    | false => rw [ofToken_list cut pattern, String.toList_ofList]

/-- The call has the form in which a text is read. -/
structure Canonical (call : Call) : Prop where
  name : PlainName call.name.toList
  pattern : isPatternRule call.name.toList = true → call.parameters.length ≤ 1
  parameters : isPatternRule call.name.toList = false → ∀ parameter ∈ call.parameters,
    ',' ∉ parameter.toList ∧ '|' ∉ parameter.toList ∧
      Text.trimChars parameter.toList = parameter.toList

theorem canonical_of_mem {text token : String} (member : token ∈ tokens text) {rule : Rule}
    (known : find? (ofToken token).name = some rule) : (ofToken token).Canonical := by
  have plain := plainName_of_find? known
  have named := name_ofToken token
  rcases cut : Text.cut ':' token.toList with ⟨name, _ | list⟩
  · rw [ofToken_name_only cut] at plain ⊢
    exact ⟨plain, fun _ => Nat.zero_le 1, fun _ _ member => absurd member List.not_mem_nil⟩
  rw [cut] at named
  have same : isPatternRule (ofToken token).name.toList = isPatternRule name := by
    rw [named] at plain ⊢
    exact isPatternRule_normalizeChars plain.normal
  refine ⟨plain, fun pattern => ?_, fun plainly parameter among => ?_⟩
  · rw [ofToken_pattern cut (same ▸ pattern)]
    exact Nat.le_refl 1
  · rw [ofToken_list cut (same ▸ plainly)] at among
    obtain ⟨piece, piece_mem, rfl⟩ := List.mem_map.mp among
    have inside := Text.sublist_trimChars piece
    rw [String.toList_ofList]
    refine ⟨fun comma => Text.not_mem_of_mem_splitAt piece_mem (inside.subset comma),
      fun bar => ?_, Text.trimChars_trimChars piece⟩
    -- A text with a bar would be the pattern of its rule.
    have listed := Text.mem_of_mem_splitAt piece_mem (inside.subset bar)
    have call := isPatternCall_of_bar member (Text.mem_of_cut cut listed)
    simp only [isPatternCall, cut, ← same, plainly] at call
    cases call

variable {call : Call}

theorem toList_toToken (some_ : call.parameters ≠ []) :
    call.toToken.toList = call.name.toList ++
      ':' :: Text.joinWith [','] (call.parameters.map String.toList) := by
  rw [toToken, if_neg (by simpa using some_), String.toList_append, String.toList_append,
    Text.toList_join, List.append_assoc]
  rfl

theorem toToken_of_nil (none_ : call.parameters = []) : call.toToken = call.name := by
  rw [toToken, none_, List.isEmpty_nil, if_pos rfl]

/-- The name and the parameters can be told apart in the text of the call. -/
structure Separable (call : Call) : Prop where
  no_colon : ':' ∉ call.name.toList
  no_bar : '|' ∉ call.name.toList
  full : Text.isBlankText call.name.toList = false
  pattern : isPatternRule call.name.toList = true → call.parameters.length ≤ 1
  parameters : isPatternRule call.name.toList = false → ∀ parameter ∈ call.parameters,
    ',' ∉ parameter.toList ∧ '|' ∉ parameter.toList ∧
      Text.trimChars parameter.toList = parameter.toList

namespace Separable

theorem eq_singleton (separable : call.Separable) (some_ : call.parameters ≠ [])
    (pattern : isPatternRule call.name.toList = true) :
    ∃ parameter, call.parameters = [parameter] :=
  List.length_eq_one_iff.mp
    (Nat.le_antisymm (separable.pattern pattern) (List.length_pos_iff.mpr some_))

theorem ofToken_toToken (separable : call.Separable) :
    ofToken call.toToken = { call with name := normalizeName call.name } := by
  rcases call with ⟨name, parameters⟩
  rcases parameters.eq_nil_or_concat with rfl | ⟨_, _, some_⟩
  · rw [toToken_of_nil rfl, ofToken_name_only (Text.cut_of_not_mem separable.no_colon),
      normalizeName]
  have more : parameters ≠ [] := by simp [some_]
  have cut : Text.cut ':' (Call.mk name parameters).toToken.toList =
      (name.toList, some (Text.joinWith [','] (parameters.map String.toList))) := by
    rw [toList_toToken more, Text.cut_append separable.no_colon]
  cases pattern : isPatternRule name.toList with
  | true =>
      obtain ⟨parameter, rfl⟩ := separable.eq_singleton more pattern
      rw [ofToken_pattern cut pattern, normalizeName]
      simp [Text.joinWith]
  | false =>
      have parts := separable.parameters pattern
      rw [ofToken_list cut pattern, Text.splitAt_joinWith (by simpa using more), List.map_map]
      · refine congrArg (Call.mk (normalizeName name)) ?_
        refine (List.map_congr_left fun parameter member => ?_).trans (List.map_id parameters)
        rw [Function.comp_apply, (parts parameter member).2.2, String.ofList_toList, id]
      · intro piece member
        obtain ⟨parameter, among, rfl⟩ := List.mem_map.mp member
        exact (parts parameter among).1

theorem tokens_toToken (separable : call.Separable) : tokens call.toToken = [call.toToken] := by
  suffices chars : tokensFrom .name [] call.toToken.toList = [call.toToken.toList] by
    rw [tokens, chars, List.map_singleton, String.ofList_toList]
  by_cases none_ : call.parameters = []
  · rw [toToken_of_nil none_, tokensFrom_of_no_bar separable.no_bar]
    rfl
  rw [toList_toToken none_]
  cases pattern : isPatternRule call.name.toList with
  | true =>
      exact tokensFrom_pattern_rule separable.no_bar separable.no_colon
        (by rwa [List.reverse_nil, List.nil_append]) _
  | false =>
      refine tokensFrom_of_no_bar fun bar => ?_
      rcases List.mem_append.mp bar with bar | bar
      · exact separable.no_bar bar
      · obtain ⟨piece, member, bar⟩ := Text.exists_of_mem_joinWith (by decide)
          (List.mem_of_ne_of_mem (by decide) bar)
        obtain ⟨parameter, among, rfl⟩ := List.mem_map.mp member
        exact (separable.parameters pattern parameter among).2.1 bar

theorem not_isBlankText_toToken (separable : call.Separable) :
    Text.isBlankText call.toToken.toList = false := by
  by_cases none_ : call.parameters = []
  · rw [toToken_of_nil none_, separable.full]
  · rw [toList_toToken none_, Text.isBlankText, List.all_append, ← Text.isBlankText,
      separable.full, Bool.false_and]

end Separable

namespace Canonical

theorem separable (canonical : call.Canonical) : call.Separable where
  no_colon := canonical.name.no_colon
  no_bar := canonical.name.no_bar
  full := canonical.name.full
  pattern := canonical.pattern
  parameters := canonical.parameters

theorem tokens_toToken (canonical : call.Canonical) : tokens call.toToken = [call.toToken] :=
  canonical.separable.tokens_toToken

theorem call?_toToken (canonical : call.Canonical) :
    (Item.token call.toToken).call? = some call := by
  have normal : normalizeName call.name = call.name := by
    rw [normalizeName, canonical.name.normal, String.ofList_toList]
  rw [Item.call?, canonical.separable.not_isBlankText_toToken, if_neg Bool.false_ne_true,
    canonical.separable.ofToken_toToken, normal]

end Canonical
end Call
end RouteDocs.Rule
