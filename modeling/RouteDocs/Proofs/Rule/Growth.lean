import RouteDocs.Proofs.Rule.Additions

/-!
More rules only add to a field. What rules said about it stays in its place, and nothing that they
gave or turned on gets lost.
-/

namespace RouteDocs

/-- The later field has everything that rules gave to the earlier one, though values of single
attributes may be others. -/
structure Field.Grows (f later : Field) : Prop where
  literals : f.literals.getD [] <+: later.literals.getD []
  validCharacters : f.validCharacters <+: later.validCharacters
  fileExtensions : f.fileExtensions.getD [] <+: later.fileExtensions.getD []
  messages : f.messages <+: later.messages
  rules : f.rules <+: later.rules
  required : f.required = true → later.required = true
  nullable : f.nullable = true → later.nullable = true
  type : f.type.isSome = true → later.type.isSome = true
  min : f.bounds.min.isSome = true → later.bounds.min.isSome = true
  max : f.bounds.max.isSome = true → later.bounds.max.isSome = true

/-- Nothing is there twice. -/
structure Field.Distinct (f : Field) : Prop where
  literals : (f.literals.getD []).Pairwise fun first second => first.sameLiteral second = false
  validCharacters : f.validCharacters.Nodup
  fileExtensions : (f.fileExtensions.getD []).Nodup

namespace Field.Grows

variable {f between later : Field}

theorem refl (f : Field) : Grows f f :=
  ⟨List.prefix_refl _, List.prefix_refl _, List.prefix_refl _, List.prefix_refl _,
    List.prefix_refl _, id, id, id, id, id⟩

theorem trans (first : Grows f between) (second : Grows between later) : Grows f later where
  literals := first.literals.trans second.literals
  validCharacters := first.validCharacters.trans second.validCharacters
  fileExtensions := first.fileExtensions.trans second.fileExtensions
  messages := first.messages.trans second.messages
  rules := first.rules.trans second.rules
  required := second.required ∘ first.required
  nullable := second.nullable ∘ first.nullable
  type := second.type ∘ first.type
  min := second.min ∘ first.min
  max := second.max ∘ first.max

end Field.Grows

namespace Rule

theorem Effect.typeAfter_isSome {effect : Effect} {type : Option FieldType}
    (given : type.isSome = true) : (effect.typeAfter type).isSome = true := by
  cases effect with
  | multiple =>
      rw [typeAfter]
      split
      · exact given
      · rfl
  | nothing | nullable | required | answers | filled | size | between | lower | upper | oneOf
  | startsWith | endsWith => exact given
  | _ => rfl

namespace Reading

variable {s : Setting} {r after : Reading}

theorem grows_of_applyCall {call : Call} (applied : r.applyCall s call = .ok after) :
    Field.Grows r.field after.field := by
  have added := adds_of_applyCall applied
  have told := messages_of_applyCall applied
  have listed := rules_of_applyCall applied
  obtain ⟨rule, _, typed⟩ := type_of_applyCall applied
  obtain ⟨_, _, bounded⟩ := bounds_of_applyCall applied
  constructor
  · rw [added.literals]
    exact Field.prefix_unite
  · rw [added.characters]
    exact Field.prefix_unite
  · rw [added.extensions]
    exact Field.prefix_unite
  · rw [told]
    exact List.prefix_append _ _
  · rw [listed]
    exact List.prefix_append _ _
  · intro needed
    rw [added.required, needed, Bool.true_or]
  · intro allowed
    rw [added.nullable, allowed, Bool.true_or]
  · intro given
    rw [typed]
    exact Effect.typeAfter_isSome given
  · exact Effect.min_isSome_of_bounds bounded
  · exact Effect.max_isSome_of_bounds bounded

theorem grows_of_applyCalls {calls : List Call} (applied : r.applyCalls s calls = .ok after) :
    Field.Grows r.field after.field := by
  induction calls generalizing r with
  | nil =>
      cases applied
      exact .refl _
  | cons call rest induction =>
      obtain ⟨next, first, later⟩ := applyCalls_cons_iff.mp applied
      exact (grows_of_applyCall first).trans (induction later)

theorem distinct_of_applyCalls {name : String} {draw : Int} {calls : List Call}
    (applied : Reading.applyCalls s { field := { name }, draw } calls = .ok after) :
    after.field.Distinct := by
  have gathered := gathered_of_applyCalls applied
  constructor
  · refine gathered.nodup_literals.imp_of_mem fun {first second} left right different => ?_
    rw [gathered.mem_literals] at left right
    rw [← Bool.not_eq_true, Value.sameLiteral_iff (Gathered.plain_of_calls first left)
      (Gathered.plain_of_calls second right)]
    exact different
  · rw [gathered.characters]
    exact Field.nodup_unite (by simp) List.nodup_nil
  · rw [gathered.extensions]
    exact Field.nodup_unite (by simp) List.nodup_nil

/-- Where reading stops, only rules before the one that fails have been read. -/
theorem steps_reached (s : Setting) (r : Reading) (items : List Item) :
    ∃ done, done <+: items ∧ r.steps s done = ((r.steps s items).1, none) := by
  induction items generalizing r with
  | nil => exact ⟨[], List.prefix_refl [], rfl⟩
  | cons item rest induction =>
      rw [steps]
      cases stepped : r.step s item with
      | error failure => exact ⟨[], List.nil_prefix, rfl⟩
      | ok next =>
          obtain ⟨done, front, reached⟩ := induction next
          refine ⟨item :: done, (List.prefix_cons_inj item).mpr front, ?_⟩
          exact steps_cons_eq_none_iff.mpr ⟨next, stepped, reached⟩

end Reading

section

variable (s : Setting) (name : String) (draw : Int)

theorem grows_of_read {rules more : List Given} (stated : ∀ rule ∈ rules ++ more, Stated rule)
    (succeeds : (read s name (.list (rules ++ more)) draw).2 = none) :
    (read s name (.list rules) draw).2 = none ∧
      Field.Grows (read s name (.list rules) draw).1.field
        (read s name (.list (rules ++ more)) draw).1.field := by
  obtain ⟨between, front, back⟩ := read_append_iff.mp (read_eq_of_none succeeds)
  have later : ∀ item ∈ (Given.list more).items, item.IsStated :=
    (Stated.list fun rule member => stated rule (List.mem_append_right rules member)).of_mem
  rw [front]
  exact ⟨rfl, Reading.grows_of_applyCalls (Reading.applyCalls_of_steps later back)⟩

theorem distinct_of_read {rules : Given} (stated : Stated rules) :
    (read s name rules draw).1.field.Distinct := by
  obtain ⟨done, front, reached⟩ := Reading.steps_reached s { field := { name }, draw } rules.items
  have applied := Reading.applyCalls_of_steps
    (fun item member => stated.of_mem item (front.subset member)) reached
  exact Reading.distinct_of_applyCalls applied

end

/-- Rules that come later add to a field and take nothing from it. What a rule says is the same,
whatever rules come after it. -/
theorem read_grows (s : Setting) (name : String) (draw : Int) :
    (∀ rules more : List Given, (∀ rule ∈ rules ++ more, Stated rule) →
      (read s name (.list (rules ++ more)) draw).2 = none →
        (read s name (.list rules) draw).2 = none ∧
          Field.Grows (read s name (.list rules) draw).1.field
            (read s name (.list (rules ++ more)) draw).1.field) ∧
      (∀ rules, Stated rules → (read s name rules draw).1.field.Distinct) ∧
      ∀ (before : List Given) (rule : Given) (more : List Given),
        (∀ other ∈ before ++ rule :: more, Stated other) →
        (read s name (.list (before ++ rule :: more)) draw).2 = none → ∃ said later,
          (read s name (.list (before ++ [rule])) draw).1.field.messages =
            (read s name (.list before) draw).1.field.messages ++ said ∧
          (read s name (.list (before ++ rule :: more)) draw).1.field.messages =
            (read s name (.list before) draw).1.field.messages ++ said ++ later := by
  refine ⟨fun rules more => grows_of_read s name draw, fun rules => distinct_of_read s name draw,
    fun before rule more stated succeeds => ?_⟩
  have split : before ++ rule :: more = before ++ [rule] ++ more := by simp
  rw [split] at stated succeeds ⊢
  obtain ⟨middle, second⟩ := grows_of_read s name draw stated succeeds
  obtain ⟨_, first⟩ := grows_of_read s name draw
    (fun other member => stated other (List.mem_append_left more member)) middle
  obtain ⟨said, said_eq⟩ := first.messages
  obtain ⟨later, later_eq⟩ := second.messages
  refine ⟨said, later, said_eq.symm, ?_⟩
  rw [← later_eq, ← said_eq]

theorem read_grows_choices :
    (read plainSetting "age" (.list [.text "required|in:1,a", .parts [.text "min", .int 3],
        .text "boolean|max:10"]) 0).2 = none ∧
      Field.Grows
        (read plainSetting "age"
          (.list [.text "required|in:1,a", .parts [.text "min", .int 3]]) 0).1.field
        (read plainSetting "age"
          (.list [.text "required|in:1,a", .parts [.text "min", .int 3],
            .text "boolean|max:10"]) 0).1.field := by
  have succeeds : (read plainSetting "age" (.list [.text "required|in:1,a",
      .parts [.text "min", .int 3], .text "boolean|max:10"]) 0).2 = none :=
    Option.isNone_iff_eq_none.mp (by decide +kernel)
  refine ⟨succeeds, ((read_grows plainSetting "age" 0).1
    [.text "required|in:1,a", .parts [.text "min", .int 3]] [.text "boolean|max:10"] ?_
    succeeds).2⟩
  simp only [List.cons_append, List.nil_append, List.forall_mem_cons]
  exact ⟨.text _, .parts _, .text _, nofun⟩

end Rule
end RouteDocs
