import RouteDocs.Proofs.Outcome
import RouteDocs.Schema.Infer

/-!
The schema of a value depends on the resources inside it only through the schemas that they
are given. This is said once for any two ways to run steps that agree on the steps of
inference.
-/

namespace RouteDocs

/-- A resource of the given class stands somewhere inside the value. -/
inductive Value.Contains (type : ClassName) : Value → Prop
  | rendering : Contains type (.rendering type)
  | list {items : List Value} {item : Value} (member : item ∈ items)
      (inside : Contains type item) : Contains type (.list items)
  | tuple {items : List Value} {item : Value} (member : item ∈ items)
      (inside : Contains type item) : Contains type (.tuple items)
  | map {entries : List (Value × Value)} {entry : Value × Value} (member : entry ∈ entries)
      (inside : Contains type entry.2) : Contains type (.map entries)
  | view {entries : List (Value × Value)} {entry : Value × Value} (member : entry ∈ entries)
      (inside : Contains type entry.2) : Contains type (.view entries)
  | kept {mark : Mark} {value : Value} (inside : Contains type value) :
      Contains type (.kept mark value)

namespace Schema.Node

/-- A relation between steps of two kinds that steps made of related ones stand in. -/
structure Correspondence (m n : Type → Type) [Monad m] [MonadExceptOf Failure m]
    [Monad n] [MonadExceptOf Failure n] where
  rel : {α : Type} → m α → n α → Prop
  rel_pure : ∀ {α : Type} (a : α), rel (pure a) (pure a)
  rel_throw : ∀ {α : Type} (failure : Failure), rel (throw failure : m α) (throw failure)
  rel_bind : ∀ {α β : Type} {first : m α} {second : n α} {next : α → m β} {other : α → n β},
    rel first second → (∀ a, rel (next a) (other a)) → rel (first >>= next) (second >>= other)

section

variable {m n : Type → Type} [Monad m] [MonadExceptOf Failure m] [Monad n]
  [MonadExceptOf Failure n] (c : Correspondence m n)
  {convert : Option String → ClassName → m Node} {other : Option String → ClassName → n Node}

mutual

theorem inferWith_rel : (name : Option String) → (value : Value) →
    (∀ type, value.Contains type → ∀ name, c.rel (convert name type) (other name type)) →
    c.rel (inferWith convert name value) (inferWith other name value)
  | name, .bool b, _ => c.rel_pure _
  | name, .int n, _ => c.rel_pure _
  | name, .real x, _ => c.rel_pure _
  | name, .text s, _ => c.rel_pure _
  | name, .null, _ => c.rel_pure _
  | name, .map entries, same => by
      refine c.rel_bind (inferEntries_rel entries fun entry member type inside => ?_)
        fun _ => c.rel_pure _
      exact same type (.map member inside)
  | name, .view entries, same => by
      refine c.rel_bind (inferEntries_rel entries fun entry member type inside => ?_)
        fun _ => c.rel_pure _
      exact same type (.view member inside)
  | name, .list items, same =>
      inferFirst_rel name items fun item member type inside => same type (.list member inside)
  | name, .tuple items, same =>
      inferFirst_rel name items fun item member type inside => same type (.tuple member inside)
  | name, .range start stop, _ => by
      rw [inferWith, inferWith]
      split
      · exact c.rel_pure _
      · exact c.rel_throw _
  | name, .rendering type, same => same type .rendering name
  | name, .kept _ value, same => inferWith_rel name value fun type inside => same type (.kept inside)
  | name, .bytes isBuffer octets, _ => c.rel_throw _
  | name, .set items, _ => c.rel_throw _
  | name, .date d, _ => c.rel_throw _
  | name, .moment m, _ => c.rel_throw _
  | name, .object typeName, _ => c.rel_throw _

theorem inferFirst_rel : (name : Option String) → (items : List Value) →
    (∀ item ∈ items, ∀ type, item.Contains type →
      ∀ name, c.rel (convert name type) (other name type)) →
    c.rel (inferFirst convert name items) (inferFirst other name items)
  | name, [], _ => c.rel_throw _
  | name, first :: _, same =>
      c.rel_bind (inferWith_rel none first (same first (by simp))) fun _ => c.rel_pure _

theorem inferEntries_rel : (entries : List (Value × Value)) →
    (∀ entry ∈ entries, ∀ type, entry.2.Contains type →
      ∀ name, c.rel (convert name type) (other name type)) →
    c.rel (inferEntries convert entries) (inferEntries other entries)
  | [], _ => c.rel_pure _
  | (key, value) :: rest, same =>
      c.rel_bind (inferWith_rel (some key.display) value (same (key, value) (by simp))) fun _ =>
        c.rel_bind (inferEntries_rel rest fun entry member =>
          same entry (List.mem_cons_of_mem _ member)) fun _ => c.rel_pure _

end

end

/-! The name that a value is given stands at the root of its node, and nowhere else but in
failures. -/

section

variable {convert : Option String → ClassName → Except Failure Node}

theorem toOption_inferFirst (name : Option String) (items : List Value) :
    (inferFirst convert name items).toOption =
      (inferFirst convert none items).toOption.map (rename name) := by
  cases items with
  | nil => rfl
  | cons first rest =>
      rw [inferFirst, inferFirst]
      cases inferWith convert none first <;> rfl

theorem toOption_inferWith
    (names : ∀ name type, convert name type = (convert none type).map (rename name))
    (name : Option String) (value : Value) :
    (inferWith convert name value).toOption =
      (inferWith convert none value).toOption.map (rename name) := by
  induction value using Value.bare.induct with
  | case1 mark value induction => rwa [inferWith, inferWith]
  | case2 value plain =>
      cases value with
      | kept mark inner => exact absurd rfl (plain mark inner)
      | list items => exact toOption_inferFirst name items
      | tuple items => exact toOption_inferFirst name items
      | map entries =>
          rw [inferWith, inferWith]
          cases inferEntries convert entries <;> rfl
      | view entries =>
          rw [inferWith, inferWith]
          cases inferEntries convert entries <;> rfl
      | range start stop =>
          rw [inferWith, inferWith]
          split <;> rfl
      | rendering type =>
          rw [inferWith, inferWith, names name type]
          cases convert none type <;> rfl
      | _ => rfl

/-- A value under a key is inferred to its own node, under the key. -/
theorem toOption_inferWith_under
    (names : ∀ name type, convert name type = (convert none type).map (rename name))
    (key value : Value) :
    (inferWith convert none (.map [(key, value)])).toOption =
      (inferWith convert none value).toOption.map fun node =>
        ofObject none [node.rename (some key.display)] := by
  have single : inferWith convert none (.map [(key, value)]) =
      (inferWith convert (some key.display) value).map fun node => ofObject none [node] := by
    rw [inferWith, inferEntries, inferEntries]
    cases inferWith convert (some key.display) value <;> rfl
  rw [single, Outcome.toOption_map, toOption_inferWith names, Option.map_map]
  rfl

end

end Schema.Node
end RouteDocs
