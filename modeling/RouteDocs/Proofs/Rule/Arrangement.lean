import RouteDocs.Proofs.Rule.Additions

/-!
Rules in another order. The same rules can be read, and they make the same demands, take the same
literals, characters and extensions, and draw as often.
-/

namespace RouteDocs.Rule

/-- The readings differ in types, bounds, texts, examples and messages at most, and in the order of
what rules added. -/
structure Rearranged (r other : Reading) : Prop where
  required : r.field.required = other.field.required
  nullable : r.field.nullable = other.field.nullable
  literals : ∀ literal,
    literal ∈ r.field.literals.getD [] ↔ literal ∈ other.field.literals.getD []
  someLiterals : r.field.literals.isSome = other.field.literals.isSome
  characters : ∀ character,
    character ∈ r.field.validCharacters ↔ character ∈ other.field.validCharacters
  extensions : ∀ extension,
    extension ∈ r.field.fileExtensions.getD [] ↔ extension ∈ other.field.fileExtensions.getD []
  someExtensions : r.field.fileExtensions.isSome = other.field.fileExtensions.isSome
  rules : r.field.rules.Perm other.field.rules
  draw : r.draw = other.draw

theorem rearranged_of_perm {name : String} {draw : Int} {calls others : List Call}
    {after last : Reading} (perm : calls.Perm others)
    (gathered : Gathered { field := { name }, draw } calls after)
    (again : Gathered { field := { name }, draw } others last) : Rearranged after last where
  required := by rw [gathered.required, again.required, perm.any_eq]
  nullable := by rw [gathered.nullable, again.nullable, perm.any_eq]
  literals literal := by
    rw [gathered.mem_literals, again.mem_literals, (perm.flatMap_right _).mem_iff]
  someLiterals := by rw [gathered.someLiterals, again.someLiterals, perm.any_eq]
  characters character := by
    rw [gathered.mem_characters, again.mem_characters, (perm.flatMap_right _).mem_iff]
  extensions extension := by
    rw [gathered.mem_extensions, again.mem_extensions, (perm.flatMap_right _).mem_iff]
  someExtensions := by rw [gathered.someExtensions, again.someExtensions, perm.any_eq]
  rules := by
    rw [gathered.rules, again.rules]
    exact perm.flatMap_right Call.listing
  draw := by rw [gathered.draw, again.draw, perm.countP_eq]

/-- Rules in texts can be put in any order, each with all the tokens that are in it. -/
theorem read_perm {rules others : List String} (perm : rules.Perm others) (s : Setting)
    (name : String) (draw : Int) :
    ((read s name (.list (rules.map .text)) draw).2 = none ↔
        (read s name (.list (others.map .text)) draw).2 = none) ∧
      ((read s name (.list (rules.map .text)) draw).2 = none →
        Rearranged (read s name (.list (rules.map .text)) draw).1
          (read s name (.list (others.map .text)) draw).1) := by
  have calls : (Given.list (rules.map .text)).calls.Perm (Given.list (others.map .text)).calls := by
    rw [calls_texts, calls_texts]
    exact (perm.flatMap_right tokens).filterMap _
  have written := written_texts rules
  have again := written_texts others
  have same : (read s name (.list (rules.map .text)) draw).2 = none ↔
      (read s name (.list (others.map .text)) draw).2 = none := by
    rw [read_succeeds_iff written, read_succeeds_iff again]
    exact forall_congr' fun call => by rw [calls.mem_iff]
  refine ⟨same, fun succeeds => ?_⟩
  have first := (read_written_iff written).mp (read_eq_of_none succeeds)
  have second := (read_written_iff again).mp (read_eq_of_none (same.mp succeeds))
  exact rearranged_of_perm calls (Reading.gathered_of_applyCalls first)
    (Reading.gathered_of_applyCalls second)

theorem read_perm_numbers :
    (read plainSetting "code" (.list (["min:2", "in:1,2", "email"].map .text)) 7).2 = none ∧
      Rearranged (read plainSetting "code" (.list (["min:2", "in:1,2", "email"].map .text)) 7).1
        (read plainSetting "code" (.list (["email", "min:2", "in:1,2"].map .text)) 7).1 := by
  have succeeds : (read plainSetting "code"
      (.list (["min:2", "in:1,2", "email"].map .text)) 7).2 = none :=
    Option.isNone_iff_eq_none.mp (by decide +kernel)
  have perm : ["min:2", "in:1,2", "email"].Perm ["email", "min:2", "in:1,2"] := by decide
  exact ⟨succeeds, (read_perm perm plainSetting "code" 7).2 succeeds⟩

end RouteDocs.Rule
