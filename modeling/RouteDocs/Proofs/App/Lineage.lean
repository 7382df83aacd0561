import RouteDocs.App.Rendering

/-! Which classes are met on the way up from a class. -/

namespace RouteDocs

namespace Class

theorem mem_of_lineage {classes : List Class} {name : ClassName}
    (known : lineage classes name ≠ []) : name ∈ classes.map Class.name := by
  induction classes with
  | nil => exact absurd rfl known
  | cons c earlier induction =>
      by_cases here : c.name = name
      · exact List.mem_map.mpr ⟨c, List.mem_cons_self, here⟩
      · rw [lineage, if_neg here] at known
        exact List.mem_cons_of_mem _ (induction known)

theorem lineage_subset (classes : List Class) (name : ClassName) :
    lineage classes name ⊆ classes := by
  induction classes generalizing name with
  | nil => exact List.Subset.refl _
  | cons c earlier induction =>
      rw [lineage]
      split
      · apply List.cons_subset_cons
        cases c.parent with
        | none => exact List.nil_subset _
        | some parent => exact induction parent
      · exact List.subset_cons_of_subset _ (induction name)

theorem lineage_append_of_fresh {newer older : List Class} {name : ClassName}
    (fresh : name ∉ newer.map Class.name) : lineage (newer ++ older) name = lineage older name := by
  induction newer with
  | nil => rfl
  | cons c newer induction =>
      rw [List.map_cons, List.mem_cons, not_or] at fresh
      rw [List.cons_append, lineage, if_neg fun same => fresh.1 same.symm, induction fresh.2]

/-- The ancestor is met on the way up from the class of the given name. -/
def Bears (classes : List Class) (name ancestor : ClassName) : Prop :=
  ∃ c ∈ lineage classes name, c.name = ancestor

theorem not_bears_of_fresh {classes : List Class} {ancestor : ClassName}
    (fresh : ∀ c ∈ classes, c.name ≠ ancestor) (name : ClassName) :
    ¬ Bears classes name ancestor := by
  rintro ⟨c, member, same⟩
  exact fresh c (lineage_subset classes name member) same

theorem bears_cons {c : Class} {earlier : List Class} {name ancestor : ClassName}
    (found : Bears (c :: earlier) name ancestor) (other : c.name ≠ ancestor) :
    Bears earlier (if c.name = name then c.parent.getD name else name) ancestor := by
  obtain ⟨d, member, same⟩ := found
  by_cases here : c.name = name
  · rw [lineage, if_pos here] at member
    rw [if_pos here]
    rcases List.mem_cons.mp member with first | above
    · subst first
      exact absurd same other
    · cases parent : c.parent with
      | none =>
          rw [parent] at above
          cases above
      | some parentName =>
          rw [parent] at above
          exact ⟨d, above, same⟩
  · rw [lineage, if_neg here] at member
    rw [if_neg here]
    exact ⟨d, member, same⟩

/-- What is older than a list of classes is reached from it at one place. -/
theorem exists_bears_of_append (newer older : List Class) (name : ClassName) :
    ∃ entry, ∀ ancestor, (∀ c ∈ newer, c.name ≠ ancestor) →
      Bears (newer ++ older) name ancestor → Bears older entry ancestor := by
  induction newer generalizing name with
  | nil => exact ⟨name, fun _ _ found => found⟩
  | cons c newer induction =>
      obtain ⟨entry, reaches⟩ := induction (if c.name = name then c.parent.getD name else name)
      refine ⟨entry, fun ancestor fresh found => ?_⟩
      apply reaches ancestor fun d member => fresh d (List.mem_cons_of_mem _ member)
      exact bears_cons found (fresh c List.mem_cons_self)

end Class

namespace Contract

def older : List Class :=
  [redirect, response, { name := anyName, parent := root }] ++ Builtin.classes

theorem module_of_builtin {c : Class} (member : c ∈ Builtin.classes) :
    c.name.module = Builtin.module := by
  simp only [Builtin.classes, List.mem_append, List.mem_reverse, List.mem_map,
    List.mem_singleton] at member
  obtain (⟨error, -, rfl⟩ | ⟨type, -, rfl⟩) | rfl := member
  · rfl
  · rfl
  · rfl

theorem fresh_of_older {name : ClassName} (here : name.module ≠ Builtin.module)
    (first : ∀ c ∈ [redirect, response, { name := anyName, parent := root }], c.name ≠ name) :
    ∀ c ∈ older, c.name ≠ name := by
  intro c member same
  rcases List.mem_append.mp member with contract | builtin
  · exact first c contract same
  · exact here (same ▸ module_of_builtin builtin)

/-- From any class on, a resource is met or a collection, but not both. -/
theorem not_both (name : ClassName) (isResource : Class.Bears (collection :: resource :: older)
    name resourceName) (isCollection : Class.Bears (collection :: resource :: older) name
    collectionName) : False := by
  have noResource := Class.not_bears_of_fresh
    (fresh_of_older (show resourceName.module ≠ Builtin.module by decide) (by decide))
  have noCollection : ∀ c ∈ resource :: older, c.name ≠ collectionName :=
    List.forall_mem_cons.mpr ⟨by decide, fresh_of_older (by decide) (by decide)⟩
  by_cases here : name = collectionName
  · subst here
    obtain ⟨c, member, same⟩ := Class.bears_cons isResource (by decide)
    rw [Class.lineage, if_neg (by decide)] at member
    exact noResource _ ⟨c, member, same⟩
  · have above : Class.Bears (resource :: older) name collectionName := by
      obtain ⟨c, member, same⟩ := isCollection
      rw [Class.lineage, if_neg fun first => here first.symm] at member
      exact ⟨c, member, same⟩
    exact Class.not_bears_of_fresh noCollection name above

end Contract

namespace App

variable {app : App}

theorem mem_of_isA {name ancestor : ClassName} (bears : app.isA name ancestor = true) :
    name ∈ app.classes.map Class.name := by
  apply Class.mem_of_lineage
  intro empty
  rw [isA, lineage, empty] at bears
  exact absurd bears (by simp)

theorem bears_of_isA {name ancestor : ClassName} (bears : app.isA name ancestor = true) :
    Class.Bears app.classes name ancestor := by
  obtain ⟨c, member, same⟩ := List.any_eq_true.mp bears
  exact ⟨c, member, eq_of_beq same⟩

/-- A class that is met from the application's classes on and from no other class of the
contract is met from those alone. -/
theorem own_of_isA {name ancestor : ClassName} (contract : ancestor.module ≠ Builtin.module)
    (alone : ∀ other ∈ Contract.classes.map Class.name,
      Class.Bears (Contract.classes ++ Builtin.classes) other ancestor → other = ancestor)
    (bears : app.isA name ancestor = true) :
    name ∈ app.ownClasses.map Class.name ∨ name = ancestor := by
  by_cases own : name ∈ app.ownClasses.map Class.name
  · exact .inl own
  · have above := bears_of_isA bears
    unfold Class.Bears App.classes at above
    rw [List.append_assoc, Class.lineage_append_of_fresh own] at above
    by_cases known : name ∈ Contract.classes.map Class.name
    · exact .inr (alone name known above)
    · rw [Class.lineage_append_of_fresh known] at above
      obtain ⟨c, member, same⟩ := above
      have builtin := Contract.module_of_builtin (Class.lineage_subset _ _ member)
      rw [same] at builtin
      exact absurd builtin contract

theorem own_of_isResource {name : ClassName} (isResource : app.isResource name = true) :
    name ∈ app.ownClasses.map Class.name ∨ name = Contract.resourceName :=
  own_of_isA (by decide) (by unfold Class.Bears; decide) isResource

theorem own_of_isCollection {name : ClassName} (isCollection : app.isCollection name = true) :
    name ∈ app.ownClasses.map Class.name ∨ name = Contract.collectionName :=
  own_of_isA (by decide) (by unfold Class.Bears; decide) isCollection

/-- The names of resources and of collections stand for the contract's classes alone. -/
def KeepsContract (app : App) : Prop :=
  ∀ c ∈ app.ownClasses, c.name ≠ Contract.resourceName ∧ c.name ≠ Contract.collectionName

theorem KeepsContract.isCollection_eq_false (keeps : app.KeepsContract) {name : ClassName}
    (isResource : app.isResource name = true) : app.isCollection name = false := by
  rw [Bool.eq_false_iff]
  intro isCollection
  have newer : ∀ c ∈ app.ownClasses ++ [Contract.documentable, Contract.request],
      c.name ≠ Contract.resourceName ∧ c.name ≠ Contract.collectionName :=
    List.forall_mem_append.mpr ⟨keeps, by decide⟩
  have classes : app.classes =
      (app.ownClasses ++ [Contract.documentable, Contract.request]) ++
        (Contract.collection :: Contract.resource :: Contract.older) := by
    simp [App.classes, Contract.classes, Contract.older]
  obtain ⟨entry, reaches⟩ := Class.exists_bears_of_append
    (app.ownClasses ++ [Contract.documentable, Contract.request])
    (Contract.collection :: Contract.resource :: Contract.older) name
  rw [← classes] at reaches
  apply Contract.not_both entry
  · exact reaches _ (fun c member => (newer c member).1) (bears_of_isA isResource)
  · exact reaches _ (fun c member => (newer c member).2) (bears_of_isA isCollection)

end App
end RouteDocs
