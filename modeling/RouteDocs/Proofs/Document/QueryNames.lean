import Mathlib.Data.Set.Function
import RouteDocs.Document.Assemble
import RouteDocs.Proofs.Schema.Folding

/-!
Names of query parameters. They tell the segments of a path apart by brackets, so that paths
without brackets of their own can be read off their names.
-/

namespace RouteDocs

namespace PathTemplate

open Schema (segments wildcard)

/-- A segment that is not empty and has no brackets. -/
structure IsPlainSegment (part : String) : Prop where
  full : part ≠ ""
  no_opening : '[' ∉ part.toList
  no_closing : ']' ∉ part.toList

instance (part : String) : Decidable (IsPlainSegment part) :=
  decidable_of_iff (part ≠ "" ∧ '[' ∉ part.toList ∧ ']' ∉ part.toList)
    ⟨fun ⟨full, opening, closing⟩ => ⟨full, opening, closing⟩,
      fun plain => ⟨plain.full, plain.no_opening, plain.no_closing⟩⟩

def IsPlainPath (field : String) : Prop := ∀ part ∈ segments field, IsPlainSegment part

instance (field : String) : Decidable (IsPlainPath field) :=
  inferInstanceAs (Decidable (∀ part ∈ segments field, IsPlainSegment part))

/-- What the brackets of a segment hold. -/
def enclosed (part : String) : List Char := if part = wildcard then [] else part.toList

def bracketed (part : String) : List Char := '[' :: (enclosed part ++ [']'])

theorem toList_bracketed (part : String) :
    (if part = wildcard then "[]" else "[" ++ part ++ "]").toList = bracketed part := by
  unfold bracketed enclosed
  split
  · rfl
  · simp

theorem toList_queryName {field first : String} {rest : List String}
    (parts : segments field = first :: rest) :
    (queryName field).toList = first.toList ++ rest.flatMap bracketed := by
  rw [queryName, parts]
  dsimp only
  rw [String.toList_append, String.toList_join, List.flatMap_map]
  simp only [toList_bracketed]

theorem IsPlainSegment.no_closing_enclosed {part : String} (plain : IsPlainSegment part) :
    ']' ∉ enclosed part := by
  unfold enclosed
  split
  · exact List.not_mem_nil
  · exact plain.no_closing

theorem enclosed_inj {first second : String} (plain : IsPlainSegment first)
    (otherPlain : IsPlainSegment second) (same : enclosed first = enclosed second) :
    first = second := by
  have full : first.toList ≠ [] := mt String.toList_eq_nil_iff.mp plain.full
  have otherFull : second.toList ≠ [] := mt String.toList_eq_nil_iff.mp otherPlain.full
  unfold enclosed at same
  split at same
  · rename_i star
    split at same
    · rename_i otherStar
      rw [star, otherStar]
    · exact absurd same.symm otherFull
  · split at same
    · exact absurd same full
    · exact String.toList_injective same

theorem bracketed_append_inj {first second : String} {rest other : List Char}
    (plain : IsPlainSegment first) (otherPlain : IsPlainSegment second)
    (same : bracketed first ++ rest = bracketed second ++ other) :
    first = second ∧ rest = other := by
  simp only [bracketed, List.cons_append, List.append_assoc, List.nil_append] at same
  obtain ⟨held, behind⟩ := Text.append_cons_inj plain.no_closing_enclosed
    otherPlain.no_closing_enclosed (List.cons.inj same).2
  exact ⟨enclosed_inj plain otherPlain held, behind⟩

theorem flatMap_bracketed_inj {parts others : List String}
    (plain : ∀ part ∈ parts, IsPlainSegment part)
    (otherPlain : ∀ part ∈ others, IsPlainSegment part)
    (same : parts.flatMap bracketed = others.flatMap bracketed) : parts = others := by
  induction parts generalizing others with
  | nil =>
      cases others with
      | nil => rfl
      | cons other rest => cases same
  | cons part parts induction =>
      cases others with
      | nil => cases same
      | cons other rest =>
          obtain ⟨rfl, behind⟩ := bracketed_append_inj (plain part List.mem_cons_self)
            (otherPlain other List.mem_cons_self) same
          rw [induction (fun _ member => plain _ (List.mem_cons_of_mem _ member))
            (fun _ member => otherPlain _ (List.mem_cons_of_mem _ member)) behind]

theorem takeWhile_queryName {first : String} (plain : IsPlainSegment first)
    (rest : List String) :
    (first.toList ++ rest.flatMap bracketed).takeWhile (· ≠ '[') = first.toList := by
  have inside : ∀ c ∈ first.toList, decide (c ≠ '[') = true := fun c member =>
    decide_eq_true (ne_of_mem_of_not_mem member plain.no_opening)
  rw [List.takeWhile_append_of_pos inside]
  cases rest <;> simp [bracketed]

theorem queryName_injOn : Set.InjOn queryName {field | IsPlainPath field} := by
  intro field plain other otherPlain same
  obtain ⟨first, rest, parts⟩ := List.exists_cons_of_ne_nil (Schema.Node.segments_ne_nil field)
  obtain ⟨otherFirst, otherRest, otherParts⟩ :=
    List.exists_cons_of_ne_nil (Schema.Node.segments_ne_nil other)
  have members : ∀ part ∈ first :: rest, IsPlainSegment part := parts ▸ plain
  have otherMembers : ∀ part ∈ otherFirst :: otherRest, IsPlainSegment part :=
    otherParts ▸ otherPlain
  have text : first.toList ++ rest.flatMap bracketed =
      otherFirst.toList ++ otherRest.flatMap bracketed := by
    rw [← toList_queryName parts, ← toList_queryName otherParts, same]
  have sameFirst : first = otherFirst := by
    have start := congrArg (List.takeWhile (· ≠ '[')) text
    rw [takeWhile_queryName (members _ List.mem_cons_self),
      takeWhile_queryName (otherMembers _ List.mem_cons_self)] at start
    exact String.toList_injective start
  subst sameFirst
  have sameRest : rest = otherRest :=
    flatMap_bracketed_inj (fun _ member => members _ (List.mem_cons_of_mem _ member))
      (fun _ member => otherMembers _ (List.mem_cons_of_mem _ member))
      (List.append_cancel_left text)
  apply Schema.Node.segments_injective
  rw [parts, otherParts, sameRest]

end PathTemplate

namespace Document

open PathTemplate

/-- Different fields of a query are documented under different names. -/
theorem queryParameter_name_ne {f g : Field} (plain : IsPlainPath f.name)
    (otherPlain : IsPlainPath g.name) (different : f.name ≠ g.name) :
    (queryParameter f).name ≠ (queryParameter g).name :=
  fun same => different (queryName_injOn plain otherPlain same)

/-- The two paths have the same segments in another order. -/
theorem queryParameter_name_ne_wildcards :
    IsPlainPath "*.tags.*.*" ∧ IsPlainPath "*.*.tags.*" ∧ "*.tags.*.*" ≠ "*.*.tags.*" ∧
      (queryParameter { name := "*.tags.*.*" }).name ≠
        (queryParameter { name := "*.*.tags.*" }).name := by
  have plain : IsPlainPath "*.tags.*.*" := by decide
  have otherPlain : IsPlainPath "*.*.tags.*" := by decide
  have different : "*.tags.*.*" ≠ "*.*.tags.*" := by decide
  exact ⟨plain, otherPlain, different, @queryParameter_name_ne { name := "*.tags.*.*" }
    { name := "*.*.tags.*" } plain otherPlain different⟩

end Document
end RouteDocs
