import RouteDocs.Proofs.Rule.Tokens
import RouteDocs.Proofs.Rule.Written

/-!
Spellings of the rules of a field. Lists in any depth mean what the text with bars means. What is
no rule changes nothing but the warnings.
-/

namespace RouteDocs.Rule

namespace Item

/-- Blank texts and objects that say nothing about themselves are no rules. -/
def isRule : Item → Bool
  | .token text => !Text.isBlankText text.toList
  | .foreign _ => false
  | _ => true

end Item

namespace Reading

variable {s : Setting} {r : Reading} {items : List Item}

/-! Warnings are written, and never read. -/

theorem applyCall_warnings (warnings : List Event) (call : Call) :
    Reading.applyCall s { r with warnings } call =
      (r.applyCall s call).map fun after => { after with warnings } := by
  unfold applyCall
  cases find? call.name with
  | none => rfl
  | some rule =>
      dsimp only
      split
      · rfl
      · cases rule.effect.apply s.sampler s.now call.parameters r.draw r.field <;> rfl

theorem applyCustom_warnings (warnings : List Event) (rule : Custom) :
    Reading.applyCustom { r with warnings } rule =
      (r.applyCustom rule).map fun after => { after with warnings } := by
  unfold applyCustom
  cases rule.adjustments.foldlM Adjustment.apply r.field <;> rfl

theorem step_rule {item : Item} (rule : item.isRule = true) (warnings : List Event) :
    Reading.step s { r with warnings } item =
      (r.step s item).map fun after => { after with warnings } := by
  cases item with
  | token text =>
      have full : Text.isBlankText text.toList = false := by simpa [Item.isRule] using rule
      simp only [step, full, Bool.false_eq_true, if_false]
      exact applyCall_warnings warnings _
  | parts parts =>
      simp only [step]
      cases Call.ofParts? parts with
      | none => rfl
      | some call => exact applyCall_warnings warnings call
  | custom object => exact applyCustom_warnings warnings object
  | «foreign» value => cases rule

theorem step_no_rule {item : Item} (none_ : item.isRule = false) :
    ∃ warnings, r.step s item = .ok { r with warnings } := by
  cases item with
  | token text =>
      have blank : Text.isBlankText text.toList = true := by simpa [Item.isRule] using none_
      refine ⟨r.warnings, ?_⟩
      rw [step, if_pos blank]
  | «foreign» value => exact ⟨_, rfl⟩
  | parts parts => cases none_
  | custom rule => cases none_

/-- What is no rule can be left away, but for the warnings. -/
theorem steps_filter (warnings : List Event) :
    Reading.steps s { r with warnings } (items.filter Item.isRule) =
      ({ (r.steps s items).1 with warnings }, (r.steps s items).2) := by
  induction items generalizing r with
  | nil => rfl
  | cons item rest induction =>
      cases rule : item.isRule with
      | false =>
          obtain ⟨others, passed⟩ := step_no_rule (s := s) (r := r) rule
          have later := induction (r := { r with warnings := others })
          rw [List.filter_cons_of_neg (by simp [rule]), later, steps, passed]
      | true =>
          rw [List.filter_cons_of_pos rule, steps, step_rule rule, steps]
          cases r.step s item with
          | error failure => rfl
          | ok after => exact induction

/-! One warning for every object that was passed. -/

theorem warnings_of_steps (keep : ∀ item ∈ items, item.KeepsName) :
    ∃ done rest, items = done ++ rest ∧
      (r.steps s items).1.warnings = r.warnings ++
        (done.filterMap Item.foreign?).map (fun value =>
          .ruleLeftOut r.field.name value.typeName) ∧
      ((r.steps s items).2 = none → rest = []) ∧
      ∀ failure, (r.steps s items).2 = some failure →
        ∃ item more, rest = item :: more ∧ (r.steps s items).1.step s item = .error failure := by
  induction items generalizing r with
  | nil =>
      refine ⟨[], [], rfl, by simp [steps], fun _ => rfl, ?_⟩
      intro failure failed
      cases failed
  | cons item rest induction =>
      rw [steps]
      cases stepped : r.step s item with
      | error failure =>
          refine ⟨[], item :: rest, rfl, by simp, ?_, ?_⟩
          · intro finished
            cases finished
          · intro other failed
            cases failed
            exact ⟨item, rest, rfl, stepped⟩
      | ok after =>
          obtain ⟨done, left, parted, warned, finished, stopped⟩ :=
            induction (r := after) fun other member => keep other (List.mem_cons_of_mem _ member)
          refine ⟨item :: done, left, by rw [parted, List.cons_append], ?_, finished, stopped⟩
          rw [warned, warnings_of_step stepped, name_of_step (keep item (by simp)) stepped]
          cases object : item.foreign? <;> simp [object]

end Reading

/-! Spellings. -/

/-- The texts in their order, in lists of any depth, with what is no rule between them. -/
inductive Spelling : List String → Given → Prop
  | text (text : String) : Spelling [text] (.text text)
  | nothing : Spelling [] .nothing
  | blank {text : String} (blank : Text.isBlankText text.toList = true) : Spelling [] (.text text)
  | foreign (value : Value) : Spelling [] (.foreign value)
  | list {parts : List (List String × Given)} (each : ∀ part ∈ parts, Spelling part.1 part.2) :
      Spelling (parts.flatMap Prod.fst) (.list (parts.map Prod.snd))

namespace Spelling

variable {texts : List String} {given : Given}

theorem filter_items (spelling : Spelling texts given) :
    given.items.filter Item.isRule =
      ((texts.flatMap tokens).map Item.token).filter Item.isRule := by
  induction spelling with
  | text text => simp [Given.items]
  | nothing => rfl
  | @blank text blank => simp [Given.items, tokens_of_blank blank, Item.isRule, blank]
  | «foreign» value => rfl
  | @list parts each induction =>
      rw [Given.items, itemsOf_eq_flatMap, List.flatMap_map, List.filter_flatMap,
        List.flatMap_assoc, List.map_flatMap, List.filter_flatMap]
      exact List.flatMap_congr induction

theorem keepsName (spelling : Spelling texts given) : ∀ item ∈ given.items, item.KeepsName := by
  induction spelling with
  | text text => exact (Written.text text).keepsName
  | nothing => exact fun item member => nomatch member
  | @blank text _ => exact (Written.text text).keepsName
  | «foreign» value =>
      intro item member rule same
      cases List.mem_singleton.mp member
      cases same
  | @list parts _ induction =>
      intro item member
      rw [Given.items, itemsOf_eq_flatMap, List.flatMap_map] at member
      obtain ⟨part, among, member⟩ := List.mem_flatMap.mp member
      exact induction part among item member

end Spelling

/-! Readings. -/

section

variable (s : Setting) (name : String) (draw : Int)

theorem read_filter (given : Given) :
    Reading.steps s { field := { name }, draw } (given.items.filter Item.isRule) =
      ({ (read s name given draw).1 with warnings := [] }, (read s name given draw).2) :=
  Reading.steps_filter (r := { field := { name }, draw }) []

/-- Texts are read without a warning. -/
theorem read_written {given : Given} (written : Written given) :
    read s name given draw =
      Reading.steps s { field := { name }, draw } (given.items.filter Item.isRule) := by
  obtain ⟨done, rest, parted, warned, _⟩ :=
    Reading.warnings_of_steps (s := s) (r := { field := { name }, draw }) written.keepsName
  have silent : done.filterMap Item.foreign? = [] := by
    apply List.filterMap_eq_nil_iff.mpr
    intro item member
    obtain ⟨token, rfl⟩ := written.token_of_mem item (parted ▸ List.mem_append_left rest member)
    rfl
  have none_ : (read s name given draw).1.warnings = [] := by
    rw [silent] at warned
    exact warned
  rw [read_filter, ← none_]

end

theorem filter_items_join {texts : List String}
    (plain : ∀ text ∈ texts.dropLast, ∀ token ∈ tokens text, isPatternCall token.toList = false) :
    (Given.text (Text.join "|" texts)).items.filter Item.isRule =
      ((texts.flatMap tokens).map Item.token).filter Item.isRule := by
  rcases texts.eq_nil_or_concat with rfl | ⟨front, last, rfl⟩
  · rfl
  · rw [Given.items, tokens_join (by simp) plain]

/-- All spellings of a set of rules are read to the same field by the same draws, or to the same
failure. Only objects that say nothing about themselves are warned of, each one once. -/
theorem read_spelling :
    (∀ text, Text.join "|" (tokens text) = text) ∧
      ∀ texts given,
        (∀ text ∈ texts.dropLast, ∀ token ∈ tokens text, isPatternCall token.toList = false) →
        Spelling texts given → ∀ s name draw,
          read s name (.list (texts.map .text)) draw =
              read s name (.text (Text.join "|" texts)) draw ∧
            read s name (.text (Text.join "|" texts)) draw =
              ({ (read s name given draw).1 with warnings := [] }, (read s name given draw).2) ∧
            ∃ done rest, given.items = done ++ rest ∧
              (read s name given draw).1.warnings =
                (done.filterMap Item.foreign?).map (fun value =>
                  .ruleLeftOut name value.typeName) ∧
              ((read s name given draw).2 = none → rest = []) ∧
              ∀ failure, (read s name given draw).2 = some failure →
                ∃ item more, rest = item :: more ∧
                  (read s name given draw).1.step s item = .error failure := by
  refine ⟨join_tokens, fun texts given plain spelling s name draw => ?_⟩
  have joined := filter_items_join plain
  have listed : Written (.list (texts.map .text)) := by
    refine .list fun item member => ?_
    obtain ⟨text, _, rfl⟩ := List.mem_map.mp member
    exact .text text
  have list_items : (Given.list (texts.map .text)).items = (texts.flatMap tokens).map .token := by
    rw [Given.items, itemsOf_eq_flatMap, List.flatMap_map, List.map_flatMap]
    rfl
  refine ⟨?_, ?_, ?_⟩
  · rw [read_written s name draw listed, read_written s name draw (.text _), joined, list_items]
  · rw [read_written s name draw (.text _), joined, ← spelling.filter_items, read_filter]
  · obtain ⟨done, rest, parted, warned, ends⟩ :=
      Reading.warnings_of_steps (s := s) (r := { field := { name }, draw }) spelling.keepsName
    exact ⟨done, rest, parted, warned, ends⟩

/-! Two texts, the last with a pattern that has a bar in it. -/

def scatteredTexts : List String := ["required|string", "min:2|regex:/^(a|b)$/"]

def scattered : Given :=
  .list [.text "required|string", .nothing,
    .list [.text " ", .foreign (.object "Closure"), .list [.text "min:2|regex:/^(a|b)$/"]]]

def plainSetting : Setting where
  sampler := .counting "en_US"
  now := .ofDate { year := 2024, month := 2, day := 29 }

theorem spelling_scattered : Spelling scatteredTexts scattered := by
  have inner : Spelling ["min:2|regex:/^(a|b)$/"]
      (.list [.text " ", .foreign (.object "Closure"), .list [.text "min:2|regex:/^(a|b)$/"]]) := by
    refine @Spelling.list [([], _), ([], _), (["min:2|regex:/^(a|b)$/"], _)] ?_
    simp only [List.forall_mem_cons]
    refine ⟨.blank (by decide), .foreign _, ?_, nofun⟩
    refine @Spelling.list [(["min:2|regex:/^(a|b)$/"], _)] ?_
    simp only [List.forall_mem_cons]
    exact ⟨.text _, nofun⟩
  refine @Spelling.list [(["required|string"], _), ([], _), (["min:2|regex:/^(a|b)$/"], _)] ?_
  simp only [List.forall_mem_cons]
  exact ⟨.text _, .nothing, inner, nofun⟩

theorem read_scattered :
    (∀ text ∈ scatteredTexts.dropLast, ∀ token ∈ tokens text,
        isPatternCall token.toList = false) ∧
      Spelling scatteredTexts scattered ∧
      read plainSetting "grade" (.list (scatteredTexts.map .text)) 5 =
        read plainSetting "grade" (.text "required|string|min:2|regex:/^(a|b)$/") 5 ∧
      read plainSetting "grade" (.text "required|string|min:2|regex:/^(a|b)$/") 5 =
        ({ (read plainSetting "grade" scattered 5).1 with warnings := [] }, none) ∧
      (read plainSetting "grade" scattered 5).1.warnings = [.ruleLeftOut "grade" "Closure"] := by
  have plain : ∀ text ∈ scatteredTexts.dropLast, ∀ token ∈ tokens text,
      isPatternCall token.toList = false := by decide +kernel
  obtain ⟨listed, nested, done, rest, parted, warned, ends, _⟩ :=
    read_spelling.2 scatteredTexts scattered plain spelling_scattered plainSetting "grade" 5
  have succeeds : (read plainSetting "grade" scattered 5).2 = none :=
    Option.isNone_iff_eq_none.mp (by decide +kernel)
  refine ⟨plain, spelling_scattered, listed, succeeds ▸ nested, ?_⟩
  have all : scattered.items = done := by rw [parted, ends succeeds, List.append_nil]
  rw [warned, ← all]
  rfl

end RouteDocs.Rule
