import RouteDocs.Yaml.Node
import RouteDocs.Yaml.ScalarValue

/-! The value of a text. -/

namespace RouteDocs.Yaml

namespace Node

abbrev Evaluation := StateT (List (String × Value)) (Except Problem)

def noValue {α : Type} : Evaluation α :=
  throw .markup

/-- The node itself: behind its anchor, or what an alias refers to. -/
def target (anchors : List (String × Node)) : Node → Node
  | .anchored _ node => node
  | .alias name => (anchors.lookup name).getD (.alias name)
  | node => node

def isMerge : Node → Bool
  | .scalar .merge _ => true
  | .anchored _ (.scalar .merge _) => true
  | _ => false

/-- A key that stands for a value is a text where it is a key. -/
def keyNode : Node → Node
  | .scalar .value text => .scalar .str text
  | .anchored name (.scalar .value text) => .anchored name (.scalar .str text)
  | node => node

def ownEntries (entries : List (Node × Node)) : List (Node × Node) :=
  (entries.filter fun entry => !isMerge entry.1).map fun (key, value) => (keyNode key, value)

mutual

/-- The entries of a mapping: those that are merged into it, then its own. Mappings
under the names in `opened` are merged already, and not once more. -/
def flatten (anchors : List (String × Node)) (opened : List String) :
    (fuel : Nat) → List (Node × Node) → Except Problem (List (Node × Node))
  | 0, _ => throw .markup
  | fuel + 1, entries => do
      let merged ← (entries.filter fun entry => isMerge entry.1).mapM fun (_, source) =>
        match target anchors source with
        | .sequence _ items => do
            let all ← items.mapM (mergedEntries anchors opened fuel)
            pure all.reverse.flatten
        | _ => mergedEntries anchors opened fuel source
      pure (merged.flatten ++ ownEntries entries)

def mergedEntries (anchors : List (String × Node)) (opened : List String) :
    (fuel : Nat) → Node → Except Problem (List (Node × Node))
  | 0, _ => throw .markup
  | fuel + 1, source => do
      let name? := match source with
        | .alias name => some name
        | _ => none
      match target anchors source with
      | .mapping _ entries =>
          if name?.any opened.contains then pure (ownEntries entries)
          else flatten anchors (name?.toList ++ opened) fuel entries
      | _ => throw .markup

end

def isKey (value : Value) : Bool :=
  match value with
  | .list _ => false
  | .map _ => false
  | .set _ => false
  | _ => true

mutual

/-- The value of a node; `again` gives the value of a node that contains itself. -/
def evaluate (anchors : List (String × Node)) (again : String → Evaluation Value) :
    (fuel : Nat) → Node → Evaluation Value
  | 0, _ => noValue
  | fuel + 1, node =>
      match node with
      | .scalar kind text => liftM (ScalarValue.read kind text)
      | .anchored name node => do
          let value ← evaluate anchors again fuel node
          modify fun known => (name, value) :: known
          pure value
      | .alias name => do
          match (← get).lookup name with
          | some value => pure value
          | none => again name
      | .sequence kind items =>
          match kind with
          | .sequence => do pure (.list (← items.mapM (evaluate anchors again fuel)))
          | .orderedMapping => evaluatePairs anchors again fuel items
          | .pairs => evaluatePairs anchors again fuel items
          | _ => noValue
      | .mapping kind entries =>
          match kind with
          | .mapping => do pure (.map (← evaluateEntries anchors again fuel entries))
          | .set => do
              let entries ← evaluateEntries anchors again fuel entries
              pure (.set (entries.map Prod.fst))
          | kind => evaluateScalar anchors again fuel kind entries

/-- A scalar that is written as a mapping: the value behind `=` counts. -/
def evaluateScalar (anchors : List (String × Node)) (again : String → Evaluation Value) :
    (fuel : Nat) → Kind → List (Node × Node) → Evaluation Value
  | 0, _, _ => noValue
  | fuel + 1, kind, entries =>
      let isValue : Node × Node → Bool
        | (.scalar .value _, _) => true
        | _ => false
      match (entries.find? isValue).map fun entry => target anchors entry.2 with
      | some (.scalar _ text) => liftM (ScalarValue.read kind text)
      | some (.mapping _ entries) => evaluateScalar anchors again fuel kind entries
      | _ => noValue

/-- The entries of a mapping. Of equal keys the last one counts. -/
def evaluateEntries (anchors : List (String × Node)) (again : String → Evaluation Value) :
    (fuel : Nat) → List (Node × Node) → Evaluation (List (Value × Value))
  | 0, _ => noValue
  | fuel + 1, entries => do
      let entries ← liftM (flatten anchors [] fuel entries)
      let made ← entries.mapM fun (key, value) => do
        let key ← evaluate anchors again fuel key
        if !isKey key then noValue
        pure (key, ← evaluate anchors again fuel value)
      pure (Value.ofEntries made)

def evaluatePairs (anchors : List (String × Node)) (again : String → Evaluation Value) :
    (fuel : Nat) → List Node → Evaluation Value
  | 0, _ => noValue
  | fuel + 1, items => do
      let made ← items.mapM fun item => match target anchors item with
        | .mapping _ [(key, value)] => do
            let key ← evaluate anchors again fuel key
            let value ← evaluate anchors again fuel value
            pure (Value.tuple [key, value])
        | _ => noValue
      pure (.list made)

end

/-- How far a node that contains itself is followed. -/
def selfDepth : Nat := 3

def evaluateAgain (anchors : List (String × Node)) (fuel : Nat) :
    (depth : Nat) → String → Evaluation Value
  | 0, _ => pure (.object "recursion")
  | depth + 1, name => match anchors.lookup name with
      | some node => evaluate anchors (evaluateAgain anchors fuel depth) fuel node
      | none => noValue

end Node

/-- Reads the only document of a text; a text without one is nothing. -/
def read (text : String) : Except Problem Value := do
  let chars := text.toList
  match ← Node.ofTokens (← Token.ofText chars) with
  | none => pure .null
  | some document =>
      let fuel := 8 * chars.length + 8
      let again := Node.evaluateAgain document.anchors fuel Node.selfDepth
      let (value, _) ← (Node.evaluate document.anchors again fuel document.root).run []
      pure value

end RouteDocs.Yaml
