import RouteDocs.Proofs.App.Lineage
import RouteDocs.Proofs.Response.Uncached

/-! Classes that do not contain themselves are nested no deeper than there are classes. -/

namespace RouteDocs

namespace Response

open Schema (Node)
open Relation (TransGen)

variable {app : App}

theorem isResource_of_entityOf {resource entity : ClassName}
    (shows : entityOf app resource = .ok entity) : app.isResource resource = true := by
  by_contra other
  rw [entityOf, entityOf?, if_neg other] at shows
  exact absurd shows (by simp [bind, Except.bind])

theorem entityOf_of_shownBy {resource : ClassName} {content : Value}
    (shows : shownBy app resource = .ok content) :
    ∃ entity, entityOf app resource = .ok entity := by
  obtain ⟨entity, found, _⟩ := Outcome.ok_of_bind shows
  exact ⟨entity, found⟩

theorem Nests.source {outer inner : ClassName} (nests : Nests app outer inner) :
    outer ∈ app.classes.map Class.name := by
  cases nests with
  | shown shows inside =>
      obtain ⟨entity, found⟩ := entityOf_of_shownBy shows
      exact App.mem_of_isA (isResource_of_entityOf found)
  | listed isCollection _ _ _ => exact App.mem_of_isA isCollection
  | collected isCollection _ => exact App.mem_of_isA isCollection

/-- No class is nested in itself, over however many others. -/
def Acyclic (app : App) : Prop := ∀ type, ¬ TransGen (Nests app) type type

theorem acyclic_of_falls {rank : ClassName → Nat}
    (falls : ∀ {outer inner}, Nests app outer inner → rank inner < rank outer) : Acyclic app := by
  have below {outer inner : ClassName} (nests : TransGen (Nests app) outer inner) :
      rank inner < rank outer := by
    induction nests with
    | single step => exact falls step
    | tail _ step induction => exact Nat.lt_trans (falls step) induction
  exact fun type nests => Nat.lt_irrefl _ (below nests)

/-- An application whose classes can be documented one by one. -/
structure Regular (app : App) : Prop where
  keepsContract : app.KeepsContract
  inherits : ∀ type, app.isCollection type = true →
    Class.find? "to_list" Class.items (app.lineage type) = none
  acyclic : Acyclic app

/-- An application that documents a resource in one way, wherever it is met. Its classes may be nested
in themselves. -/
structure Uniform (app : App) : Prop where
  keepsContract : app.KeepsContract
  inherits : ∀ type, app.isCollection type = true →
    Class.find? "to_list" Class.items (app.lineage type) = none

theorem Regular.uniform (regular : Regular app) : Uniform app :=
  ⟨regular.keepsContract, regular.inherits⟩

theorem EndsWithin.below {depth : Nat} {outer inner : ClassName}
    (ends : EndsWithin (Nests app) (depth + 1) outer) (nests : TransGen (Nests app) outer inner) :
    EndsWithin (Nests app) depth inner := by
  induction nests with
  | single step => exact ends _ step
  | tail earlier step induction => exact induction.succ _ step

theorem mem_of_underZero {entries : List (Value × Value)} {value : Value}
    (found : underZero entries = .ok (some value)) : ∃ entry ∈ entries, entry.2 = value := by
  unfold underZero at found
  split at found
  · cases found
  · split at found
    · rename_i key held among
      cases found
      exact ⟨_, List.mem_of_find?_eq_some among, rfl⟩
    · cases found

theorem contains_of_firstItem {items first : Value} {type : ClassName}
    (found : firstItem items = .ok (some first)) (inside : first.Contains type) :
    items.Contains type := by
  induction items using Value.bare.induct with
  | case1 mark value induction => exact .kept (induction found)
  | case2 value plain =>
      unfold firstItem at found
      rw [Value.bare.eq_2 value plain] at found
      cases value with
      | list items => exact .list (List.mem_of_mem_head? (Except.ok.inj found)) inside
      | tuple items => exact .tuple (List.mem_of_mem_head? (Except.ok.inj found)) inside
      | map entries =>
          obtain ⟨entry, member, rfl⟩ := mem_of_underZero found
          exact .map member inside
      | view entries =>
          obtain ⟨entry, member, rfl⟩ := mem_of_underZero found
          exact .view member inside
      | text s =>
          obtain ⟨c, _, rfl⟩ := Option.map_eq_some_iff.mp (Except.ok.inj found)
          cases inside
      | bytes isBuffer octets =>
          obtain ⟨octet, _, rfl⟩ := Option.map_eq_some_iff.mp (Except.ok.inj found)
          cases inside
      | range start stop =>
          obtain ⟨n, _, rfl⟩ := Option.map_eq_some_iff.mp (Except.ok.inj found)
          cases inside
      | kept mark value => exact absurd rfl (plain mark value)
      | _ =>
          dsimp only at found
          split at found <;> cases found

end Response
end RouteDocs
