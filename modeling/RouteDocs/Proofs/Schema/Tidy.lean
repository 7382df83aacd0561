import Mathlib.Logic.Relation
import RouteDocs.Proofs.Keys
import RouteDocs.Schema.Tree

/-!
Trees in which a path leads to one node at most. The children of a node differ in their
names, none of which is the wildcard, and the items have no name.
-/

namespace RouteDocs.Schema.Node

/-- One node hangs directly below another. -/
inductive Holds (parent : Node) : Node → Prop
  | child {node : Node} (member : node ∈ parent.children) : Holds parent node
  | items {node : Node} (items : parent.items = some node) : Holds parent node

/-- What a tidy tree asks of the nodes directly below one of its nodes. -/
structure Orderly (node : Node) : Prop where
  distinct : (node.children.map name).Nodup
  named : ∀ child ∈ node.children, ∃ segment, segment ≠ wildcard ∧ child.name = some segment
  unnamed : ∀ items, node.items = some items → items.name = none

inductive Tidy : Node → Prop
  | intro {node : Node} (here : Orderly node) (below : ∀ other, Holds node other → Tidy other) :
      Tidy node

theorem Tidy.here {node : Node} : Tidy node → Orderly node
  | .intro here _ => here

theorem Tidy.held {node other : Node} : Tidy node → Holds node other → Tidy other
  | .intro _ below, holds => below other holds

theorem Tidy.child {node child : Node} (tidy : Tidy node) (member : child ∈ node.children) :
    Tidy child :=
  tidy.held (.child member)

theorem Tidy.under {node other : Node} (tidy : Tidy node)
    (under : Relation.ReflTransGen Holds node other) : Tidy other := by
  induction under with
  | refl => exact tidy
  | tail _ holds induction => exact induction.held holds

/-- Whether a tree is tidy is a matter of what hangs below its root. -/
theorem Tidy.of_same_below {node other : Node} (tidy : Tidy node)
    (children : other.children = node.children) (items : other.items = node.items) :
    Tidy other := by
  refine .intro ⟨?_, ?_, ?_⟩ ?_
  · rw [children]
    exact tidy.here.distinct
  · rw [children]
    exact tidy.here.named
  · rw [items]
    exact tidy.here.unnamed
  · intro below holds
    cases holds with
    | child member => exact tidy.held (.child (children ▸ member))
    | items found => exact tidy.held (.items (items ▸ found))

theorem Tidy.of_leaf {node : Node} (children : node.children = []) (items : node.items = none) :
    Tidy node := by
  refine .intro ⟨?_, ?_, ?_⟩ ?_
  · simp [children]
  · simp [children]
  · simp [items]
  · intro other holds
    cases holds with
    | child member => simp [children] at member
    | items found => simp [items] at found

/-! A segment finds each child by its name and the items by the wildcard. -/

theorem segmentName_of_ne {segment : String} (named : segment ≠ wildcard) :
    segmentName segment = some segment := by
  simp [segmentName, named]

theorem Orderly.at?_of_holds {node other : Node} (orderly : Orderly node)
    (holds : Holds node other) :
    ∃ segment, node.at? segment = some other ∧ other.name = segmentName segment := by
  cases holds with
  | child member =>
      obtain ⟨segment, named, found⟩ := orderly.named other member
      refine ⟨segment, ?_, by rw [segmentName_of_ne named, found]⟩
      rw [at?, if_neg named, child?, ← found]
      exact Keys.find?_of_mem orderly.distinct member
  | items found =>
      refine ⟨wildcard, ?_, ?_⟩
      · rw [at?, if_pos rfl, found]
      · rw [segmentName, if_pos rfl]
        exact orderly.unnamed other found

theorem holds_of_at? {node other : Node} {segment : String}
    (found : node.at? segment = some other) : Holds node other := by
  by_cases wild : segment = wildcard
  · rw [at?, if_pos wild] at found
    exact .items found
  · rw [at?, if_neg wild] at found
    exact .child (List.mem_of_find?_eq_some found)

theorem Orderly.name_of_at? {node other : Node} {segment : String} (orderly : Orderly node)
    (found : node.at? segment = some other) : other.name = segmentName segment := by
  by_cases wild : segment = wildcard
  · rw [at?, if_pos wild] at found
    rw [segmentName, if_pos wild]
    exact orderly.unnamed other found
  · rw [at?, if_neg wild, child?] at found
    rw [segmentName_of_ne wild]
    have same := List.find?_some found
    exact eq_of_beq same

/-! Paths. -/

theorem reach?_cons (segment : String) (path : List String) (node : Node) :
    node.reach? (segment :: path) = (node.at? segment).bind (reach? path) := rfl

theorem reach?_append (path rest : List String) (node : Node) :
    node.reach? (path ++ rest) = (node.reach? path).bind (reach? rest) := by
  induction path generalizing node with
  | nil => rfl
  | cons segment path induction =>
      rw [List.cons_append, reach?_cons, reach?_cons]
      cases node.at? segment with
      | none => rfl
      | some below => exact induction below

theorem at?_of_same_below {node other : Node} (children : other.children = node.children)
    (items : other.items = node.items) (segment : String) :
    other.at? segment = node.at? segment := by
  rw [at?, at?, child?, child?, children, items]

theorem Tidy.exists_path {root node : Node} (tidy : Tidy root)
    (below : Relation.TransGen Holds root node) :
    ∃ path, path ≠ [] ∧ root.reach? path = some node := by
  induction below with
  | single holds =>
      obtain ⟨segment, found, _⟩ := tidy.here.at?_of_holds holds
      exact ⟨[segment], by simp, by simp [reach?, found]⟩
  | tail below holds induction =>
      obtain ⟨path, _, reached⟩ := induction
      obtain ⟨segment, found, _⟩ :=
        (tidy.under below.to_reflTransGen).here.at?_of_holds holds
      exact ⟨path ++ [segment], by simp, by simp [reach?_append, reached, reach?, found]⟩

theorem under_of_reach? {path : List String} {root node : Node}
    (reached : root.reach? path = some node) : Relation.ReflTransGen Holds root node := by
  induction path generalizing root with
  | nil =>
      cases reached
      exact .refl
  | cons segment path induction =>
      obtain ⟨below, found, reached⟩ := Option.bind_eq_some_iff.mp reached
      exact .head (holds_of_at? found) (induction reached)

end RouteDocs.Schema.Node
