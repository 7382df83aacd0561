import RouteDocs.Proofs.Rule.Canonical

/-!
Patterns behind other rules. Nothing ends a pattern but the text, so that bars, commas and colons
reach it; of its own marks only the first and the last one are taken away.
-/

namespace RouteDocs

namespace Text

theorem cutLast_append {separator : Char} {back : List Char} (without : separator ∉ back)
    (front : List Char) : cutLast separator (front ++ separator :: back) = some (front, back) := by
  have turned : (front ++ separator :: back).reverse =
      back.reverse ++ separator :: front.reverse := by simp
  rw [cutLast, turned, cut_append (by simpa using without)]
  simp

end Text

namespace Rule

/-- A pattern between two marks, with flags behind the second one. -/
def delimited (mark : Char) (pattern flags : String) : String :=
  String.singleton mark ++ pattern ++ String.singleton mark ++ flags

theorem stripDelimiters_delimited {mark : Char} (marks : mark ∈ ['/', '#', '~']) (pattern : String)
    {flags : String} (unmarked : mark ∉ flags.toList) :
    String.ofList (stripDelimiters (delimited mark pattern flags).toList) = pattern := by
  have chars : (delimited mark pattern flags).toList =
      mark :: (pattern.toList ++ mark :: flags.toList) := by simp [delimited]
  have among : mark = '/' ∨ mark = '#' ∨ mark = '~' := by simpa using marks
  rw [chars, stripDelimiters, if_pos among, Text.cutLast_append unmarked]
  exact String.ofList_toList

def patternCall (parameter : String) : Call :=
  { name := "regex", parameters := [parameter] }

theorem separable_patternCall (parameter : String) : (patternCall parameter).Separable where
  no_colon := by simp [patternCall]
  no_bar := by simp [patternCall]
  full := (by decide : Text.isBlankText "regex".toList = false)
  pattern _ := Nat.le_refl 1
  parameters list := by
    have pattern : isPatternRule "regex".toList = true := by decide
    cases list.symm.trans pattern

theorem toToken_patternCall (parameter : String) :
    (patternCall parameter).toToken = "regex:" ++ parameter := rfl

theorem Reading.applyCall_patternCall (s : Setting) (r : Reading) (parameter : String) :
    ∃ after, r.applyCall s (patternCall parameter) = .ok after ∧
      after.field.pattern = some (String.ofList (stripDelimiters parameter.toList)) ∧
      after.field.rules = r.field.rules ++ [.text ("regex:" ++ parameter)] := by
  obtain ⟨rule, known, arity, effect⟩ : ∃ rule, find? "regex" = some rule ∧ rule.arity = 1 ∧
      rule.effect = .pattern := ⟨_, rfl, rfl, rfl⟩
  have enough : ¬ [parameter].length < rule.arity := by simp [arity]
  rw [applyCall, patternCall, known]
  dsimp only
  rw [if_neg enough, effect]
  exact ⟨_, rfl, rfl, rfl⟩

theorem Reading.steps_patternCall (s : Setting) (r : Reading) (parameter : String) :
    ∃ after, r.steps s ((tokens ("regex:" ++ parameter)).map .token) = (after, none) ∧
      after.field.pattern = some (String.ofList (stripDelimiters parameter.toList)) ∧
      after.field.rules = r.field.rules ++ [.text ("regex:" ++ parameter)] := by
  obtain ⟨after, applied, pattern, rules⟩ := applyCall_patternCall s r parameter
  have separable := separable_patternCall parameter
  refine ⟨after, ?_, pattern, rules⟩
  have normal : normalizeName "regex" = "regex" := by decide
  rw [← toToken_patternCall, separable.tokens_toToken, List.map_singleton,
    steps_cons_eq_none_iff]
  refine ⟨after, ?_, rfl⟩
  rw [step, separable.not_isBlankText_toToken, if_neg Bool.false_ne_true,
    separable.ofToken_toToken]
  rwa [patternCall, normal]

/-- A pattern behind other rules is read as it was written, whatever characters are in it. -/
theorem pattern_survives {mark : Char} (marks : mark ∈ ['/', '#', '~']) (pattern : String)
    {flags : String} (unmarked : mark ∉ flags.toList) {text : String}
    (plain : ∀ token ∈ tokens text, isPatternCall token.toList = false) {s : Setting}
    {name : String} {draw : Int} {before : Reading}
    (succeeds : read s name (.text text) draw = (before, none)) :
    ∃ after,
      read s name (.text (text ++ "|" ++ ("regex:" ++ delimited mark pattern flags))) draw =
          (after, none) ∧
        read s name (.list [.text text, .text ("regex:" ++ delimited mark pattern flags)]) draw =
          (after, none) ∧
        after.field.pattern = some pattern ∧
        after.field.rules =
          before.field.rules ++ [.text ("regex:" ++ delimited mark pattern flags)] := by
  obtain ⟨after, last, stripped, rules⟩ :=
    Reading.steps_patternCall s before (delimited mark pattern flags)
  have both : Reading.steps s { field := { name }, draw }
      ((tokens text).map .token ++
        (tokens ("regex:" ++ delimited mark pattern flags)).map .token) = (after, none) :=
    Reading.steps_append_eq_none_iff.mpr ⟨before, succeeds, last⟩
  refine ⟨after, ?_, ?_, ?_, rules⟩
  · rw [read, Given.items, tokens_append_bar plain, List.map_append, both]
  · rw [read, Given.items, itemsOf, itemsOf, itemsOf, List.append_nil]
    exact both
  · rw [stripped, stripDelimiters_delimited marks pattern unmarked]

/-- The pattern has bars, a comma, a colon and its own mark; the flags have a bar. -/
theorem pattern_survives_marks :
    ∃ before after, read plainSetting "path" (.text " Required|in:a,b|max:9") 2 = (before, none) ∧
      read plainSetting "path" (.text " Required|in:a,b|max:9|regex:/^(a|b/c),:|$/i|m ") 2 =
        (after, none) ∧
      read plainSetting "path" (.list [.text " Required|in:a,b|max:9",
        .text "regex:/^(a|b/c),:|$/i|m "]) 2 = (after, none) ∧
      after.field.pattern = some "^(a|b/c),:|$" ∧
      after.field.rules = before.field.rules ++ [.text "regex:/^(a|b/c),:|$/i|m "] := by
  have succeeds : (read plainSetting "path" (.text " Required|in:a,b|max:9") 2).2 = none :=
    Option.isNone_iff_eq_none.mp (by decide +kernel)
  obtain ⟨after, text, list, pattern, rules⟩ :=
    @pattern_survives '/' (by decide) "^(a|b/c),:|$" "i|m " (by decide) " Required|in:a,b|max:9"
      (by decide +kernel) plainSetting "path" 2 _ (read_eq_of_none succeeds)
  exact ⟨_, after, read_eq_of_none succeeds, text, list, pattern, rules⟩

end Rule
end RouteDocs
