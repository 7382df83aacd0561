import RouteDocs.Fault
import RouteDocs.Keyed
import RouteDocs.Schema.Node

/-! The schemas that were computed in a run, by what they were computed for. -/

namespace RouteDocs

structure ShapeCache (κ : Type) where
  entries : List (κ × Schema.Node) := []

namespace ShapeCache

variable {κ : Type} [BEq κ]

def keyOf (value : Value) : Except Fault Value :=
  match value.unhashable? with
  | some type => .error (.unhashable type)
  | none => .ok value

def find? (cache : ShapeCache κ) (key : κ) : Option Schema.Node :=
  (cache.entries.find? fun entry => entry.1 == key).map Prod.snd

def contains (cache : ShapeCache κ) (key : κ) : Bool :=
  (cache.find? key).isSome

def size (cache : ShapeCache κ) : Nat :=
  cache.entries.length

def put (cache : ShapeCache κ) (key : κ) (node : Schema.Node) : ShapeCache κ :=
  { entries := Keyed.put key node cache.entries }

/-- The schema for a key, computed if it is not there yet. A computation that fails
leaves nothing behind; one that computes other schemas leaves those. -/
def getOrCompute {m : Type → Type} [Monad m] [MonadStateOf (ShapeCache κ) m] (key : κ)
    (compute : m Schema.Node) : m Schema.Node := do
  match (← getThe (ShapeCache κ)).find? key with
  | some node => pure node
  | none => do
      let node ← compute
      modifyThe (ShapeCache κ) fun cache => cache.put key node
      pure node

end ShapeCache
end RouteDocs
