import Mathlib.Data.List.Infix
import Mathlib.Data.List.Nodup
import RouteDocs.Field.Basic

/-! Lists that take in what they do not have yet: literals, characters and extensions. -/

namespace RouteDocs

namespace Field

variable {α : Type} {same : α → α → Bool} {known items : List α}

@[simp] theorem unite_nil : unite same known [] = known := rfl

theorem unite_append (more : List α) :
    unite same known (items ++ more) = unite same (unite same known items) more := by
  induction items generalizing known with
  | nil => rfl
  | cons item rest induction => simp [unite, induction]

theorem prefix_unite : known <+: unite same known items := by
  induction items generalizing known with
  | nil => exact List.prefix_refl known
  | cons item rest induction =>
      rw [unite]
      split
      · exact induction
      · exact (List.prefix_append known [item]).trans induction

theorem nodup_unite (reflexive : ∀ item ∈ items, same item item = true)
    (distinct : known.Nodup) : (unite same known items).Nodup := by
  induction items generalizing known with
  | nil => exact distinct
  | cons item rest induction =>
      have others : ∀ other ∈ rest, same other other = true := fun other member =>
        reflexive other (List.mem_cons_of_mem _ member)
      rw [unite]
      split
      · exact induction others distinct
      · rename_i fresh
        have absent : item ∉ known := fun member =>
          fresh (List.any_eq_true.mpr ⟨item, member, reflexive item (by simp)⟩)
        apply induction others
        rw [List.nodup_append]
        refine ⟨distinct, by simp, ?_⟩
        intro other member last among same
        rw [List.mem_singleton.mp among] at same
        exact absent (same ▸ member)

theorem mem_unite (lawful : ∀ item ∈ items, ∀ other ∈ known ++ items,
    same item other = true → item = other) (a : α) :
    a ∈ unite same known items ↔ a ∈ known ∨ a ∈ items := by
  induction items generalizing known with
  | nil => simp
  | cons item rest induction =>
      have added : ∀ b, b ∈ (if known.any (same item) then known else known ++ [item]) ↔
          b ∈ known ∨ b = item := by
        intro b
        split
        · rename_i present
          obtain ⟨other, member, equal⟩ := List.any_eq_true.mp present
          have listed : item ∈ known :=
            lawful item (by simp) other (by simp [member]) equal ▸ member
          exact ⟨.inl, fun found => found.elim id fun equal => equal ▸ listed⟩
        · simp
      rw [unite, induction, added, List.mem_cons, or_assoc]
      intro next among other member
      refine lawful next (by simp [among]) other ?_
      simp only [List.mem_append, added, List.mem_cons] at member ⊢
      tauto

end Field

/-! Literals of the rules: truth values, integers and texts. -/

namespace Value

def isPlain : Value → Bool
  | .bool _ => true
  | .int _ => true
  | .text _ => true
  | _ => false

theorem sameLiteral_iff {first second : Value} (plain : first.isPlain = true)
    (other : second.isPlain = true) : first.sameLiteral second = true ↔ first = second := by
  cases first with
  | bool a =>
      cases second with
      | bool b => cases a <;> cases b <;> simp [sameLiteral, typeName, same, bare, number?] <;> decide
      | int | text => simp [sameLiteral, typeName]
      | _ => cases other
  | int a =>
      cases second with
      | int b => simp [sameLiteral, typeName, same, bare, number?, Number.same, Number.compare?]
      | bool | text => simp [sameLiteral, typeName]
      | _ => cases other
  | text a =>
      cases second with
      | text b => simp [sameLiteral, typeName, same, bare]
      | bool | int => simp [sameLiteral, typeName]
      | _ => cases other
  | _ => cases plain

end Value
end RouteDocs
