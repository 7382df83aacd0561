import Mathlib.Data.List.Nodup
import RouteDocs.Document.Assemble
import RouteDocs.Proofs.Keyed

/-! What adding operations does to the operations of a path. -/

namespace RouteDocs.Document

variable (operations : List (String × Operation)) (make : String → Operation)

theorem addOperations_cons_known {method : String} {known : Operation}
    (found : operations.lookup method = some known) (rest : List String) :
    addOperations operations make (method :: rest) =
      ((addOperations operations make rest).1,
        method :: (addOperations operations make rest).2) := by
  rw [addOperations, found]

theorem addOperations_cons_new {method : String} (new : operations.lookup method = none)
    (rest : List String) :
    addOperations operations make (method :: rest) =
      addOperations (operations ++ [(method, make method)]) make rest := by
  rw [addOperations, new]

/-- What was there stays; the methods that were not there are made. -/
theorem lookup_addOperations (methods : List String) (method : String) :
    (addOperations operations make methods).1.lookup method =
      (operations.lookup method).or (if method ∈ methods then some (make method) else none) := by
  induction methods generalizing operations with
  | nil => simp [addOperations]
  | cons head tail induction =>
      cases found : operations.lookup head with
      | some known =>
          rw [addOperations_cons_known operations make found, induction]
          by_cases here : method = head
          · subst here
            simp [found]
          · simp [here]
      | none =>
          rw [addOperations_cons_new operations make found, induction, List.lookup_append]
          by_cases here : method = head
          · subst here
            simp [found]
          · rw [Keyed.lookup_cons_of_ne (Ne.symm here)]
            simp [here]

theorem length_addOperations (methods : List String) :
    (addOperations operations make methods).1.length +
        (addOperations operations make methods).2.length =
      operations.length + methods.length := by
  induction methods generalizing operations with
  | nil => rfl
  | cons head tail induction =>
      cases found : operations.lookup head with
      | some known =>
          rw [addOperations_cons_known operations make found, List.length_cons, List.length_cons,
            ← Nat.add_assoc, induction, Nat.add_assoc]
      | none =>
          rw [addOperations_cons_new operations make found, induction, List.length_append,
            List.length_singleton, List.length_cons]
          omega

theorem nodup_addOperations (methods : List String)
    (distinct : (operations.map Prod.fst).Nodup) :
    ((addOperations operations make methods).1.map Prod.fst).Nodup := by
  induction methods generalizing operations with
  | nil => exact distinct
  | cons head tail induction =>
      cases found : operations.lookup head with
      | some known =>
          rw [addOperations_cons_known operations make found]
          exact induction operations distinct
      | none =>
          rw [addOperations_cons_new operations make found]
          apply induction
          have fresh : head ∉ operations.map Prod.fst := by
            rw [← Keyed.lookup_isSome_iff, found]
            exact Bool.false_ne_true
          rw [List.map_append, List.nodup_append]
          refine ⟨distinct, List.nodup_singleton head, ?_⟩
          intro method member other last same
          rw [List.map_singleton, List.mem_singleton] at last
          subst last
          subst same
          exact fresh member

end RouteDocs.Document
