import RouteDocs.Proofs.Rule.Canonical

/-!
Rules in parts and rules in texts. A name with parameters, with a list of them, and with the
parameters behind a colon are read alike, wherever they stand.
-/

namespace RouteDocs.Rule

namespace Call

/-- The call with its name as the catalogue spells it. -/
def normalized (call : Call) : Call :=
  { call with name := normalizeName call.name }

/-- The forms in which a call can be given: its parts in a row, the parameters in a list or a tuple,
or a text, alone or in a list. -/
def forms (call : Call) : List Given :=
  [.parts (.text call.name :: call.parameters.map .text),
   .parts [.text call.name, .list (call.parameters.map .text)],
   .parts [.text call.name, .tuple (call.parameters.map .text)],
   .text call.toToken,
   .list [.text call.toToken]]

theorem map_display_text (texts : List String) :
    (texts.map Value.text).map Value.display = texts := by
  rw [List.map_map]
  exact (List.map_congr_left fun _ _ => rfl).trans (List.map_id texts)

theorem partParameters_texts (texts : List String) :
    partParameters (texts.map .text) = texts.map .text := by
  rcases texts with _ | ⟨single, _ | ⟨next, rest⟩⟩ <;> rfl

theorem ofParts?_row (call : Call) :
    ofParts? (.text call.name :: call.parameters.map .text) = some call.normalized := by
  rw [ofParts?, partParameters_texts, map_display_text]
  rfl

theorem ofParts?_list (call : Call) :
    ofParts? [.text call.name, .list (call.parameters.map .text)] = some call.normalized := by
  rw [ofParts?, partParameters]
  dsimp only [Value.bare]
  rw [map_display_text]
  rfl

theorem ofParts?_tuple (call : Call) :
    ofParts? [.text call.name, .tuple (call.parameters.map .text)] = some call.normalized :=
  ofParts?_list call

/-- Each form is one rule, which applies the call. -/
theorem item_of_form {call : Call} (separable : call.Separable) {form : Given}
    (member : form ∈ call.forms) :
    ∃ item, form.items = [item] ∧ ∀ s r, Reading.step s r item = r.applyCall s call.normalized := by
  have text (s : Setting) (r : Reading) :
      Reading.step s r (.token call.toToken) = r.applyCall s call.normalized := by
    rw [Reading.step, separable.not_isBlankText_toToken, if_neg Bool.false_ne_true,
      separable.ofToken_toToken]
    rfl
  have single : (Given.text call.toToken).items = [.token call.toToken] := by
    rw [Given.items, separable.tokens_toToken]
    rfl
  simp only [forms, List.mem_cons, List.not_mem_nil, or_false] at member
  rcases member with rfl | rfl | rfl | rfl | rfl
  · refine ⟨_, rfl, fun s r => ?_⟩
    rw [Reading.step, ofParts?_row]
  · refine ⟨_, rfl, fun s r => ?_⟩
    rw [Reading.step, ofParts?_list]
  · refine ⟨_, rfl, fun s r => ?_⟩
    rw [Reading.step, ofParts?_tuple]
  · exact ⟨_, single, text⟩
  · refine ⟨_, ?_, text⟩
    rw [Given.items, itemsOf, itemsOf, List.append_nil, single]

end Call

namespace Reading

variable {s : Setting}

/-- Items that are read alike can stand for each other behind any others. -/
theorem steps_append_congr {items others : List Item}
    (alike : ∀ r : Reading, r.steps s items = r.steps s others) (front : List Item) (r : Reading) :
    r.steps s (front ++ items) = r.steps s (front ++ others) := by
  induction front generalizing r with
  | nil => exact alike r
  | cons item rest induction =>
      rw [List.cons_append, List.cons_append, steps, steps]
      cases r.step s item with
      | error failure => rfl
      | ok after => exact induction after

theorem steps_form {call : Call} (separable : call.Separable) {form other : Given}
    (member : form ∈ call.forms) (otherMember : other ∈ call.forms) (r : Reading) :
    r.steps s form.items = r.steps s other.items := by
  obtain ⟨item, items, applies⟩ := Call.item_of_form separable member
  obtain ⟨otherItem, otherItems, otherApplies⟩ := Call.item_of_form separable otherMember
  rw [items, otherItems, steps, steps, applies, otherApplies]

end Reading

/-- All forms of a call are read to the same field by the same draws, or to the same failure,
alone and behind any other rules. -/
theorem read_form {call : Call} (separable : call.Separable) {form other : Given}
    (member : form ∈ call.forms) (otherMember : other ∈ call.forms) (s : Setting) (name : String)
    (draw : Int) :
    read s name form draw = read s name other draw ∧
      ∀ earlier, read s name (.list (earlier ++ [form])) draw =
        read s name (.list (earlier ++ [other])) draw := by
  have alike := Reading.steps_form (s := s) separable member otherMember
  refine ⟨alike _, fun earlier => ?_⟩
  have items (last : Given) : (Given.list (earlier ++ [last])).items =
      earlier.flatMap Given.items ++ last.items := by
    simp [Given.items, itemsOf_eq_flatMap]
  rw [read, read, items, items]
  exact Reading.steps_append_congr alike _ _

/-- The parameter of a pattern rule is not split, whether it is a part or in a text. -/
theorem read_form_pattern :
    (Call.mk " Regex" ["/^(a|b), c:$/"]).Separable ∧
      read plainSetting "code"
          (.list [.text "max:9", .parts [.text " Regex", .list [.text "/^(a|b), c:$/"]]]) 4 =
        read plainSetting "code"
          (.list [.text "max:9", .text " Regex:/^(a|b), c:$/"]) 4 ∧
      (read plainSetting "code"
        (.list [.text "max:9", .text " Regex:/^(a|b), c:$/"]) 4).1.field.rules =
          [.text "max:9", .text "regex:/^(a|b), c:$/"] := by
  have pattern : isPatternRule " Regex".toList = true := by decide +kernel
  have separable : (Call.mk " Regex" ["/^(a|b), c:$/"]).Separable :=
    { no_colon := by decide
      no_bar := by decide
      full := by decide
      pattern := fun _ => Nat.le_refl 1
      parameters := fun list => nomatch pattern.symm.trans list }
  have text : (Call.mk " Regex" ["/^(a|b), c:$/"]).toToken = " Regex:/^(a|b), c:$/" := by decide
  obtain ⟨_, behind⟩ := @read_form _ separable
    (.parts [.text " Regex", .list [.text "/^(a|b), c:$/"]])
    (.text " Regex:/^(a|b), c:$/") (by simp [Call.forms]) (by simp [Call.forms, text])
    plainSetting "code" 4
  exact ⟨separable, behind [.text "max:9"], by decide +kernel⟩

end RouteDocs.Rule
