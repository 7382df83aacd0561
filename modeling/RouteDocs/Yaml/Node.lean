import RouteDocs.Yaml.Layout

/-! From tokens to a tree of nodes, where aliases refer to nodes with an anchor. -/

namespace RouteDocs.Yaml

def Kind.ofTag (tag : String) : Kind :=
  match Text.dropStart? Tag.standard.toList tag.toList with
  | none => .unknown
  | some name => match String.ofList name with
      | "str" => .str
      | "null" => .null
      | "bool" => .bool
      | "int" => .int
      | "float" => .float
      | "timestamp" => .timestamp
      | "binary" => .binary
      | "seq" => .sequence
      | "map" => .mapping
      | "set" => .set
      | "omap" => .orderedMapping
      | "pairs" => .pairs
      | "merge" => .merge
      | "value" => .value
      | _ => .unknown

inductive Node where
  | scalar (kind : Kind) (text : List Char)
  | sequence (kind : Kind) (items : List Node)
  | mapping (kind : Kind) (entries : List (Node × Node))
  | anchored (name : String) (node : Node)
  | alias (name : String)
  deriving Repr, Inhabited

namespace Node

def empty : Node := .scalar .null []

structure Stream where
  tokens : List Token
  handles : List (String × String) := [("!", "!"), ("!!", Tag.standard)]
  names : List String := []
  nodes : List (String × Node) := []

abbrev Build := StateT Stream (Except Problem)

def bad {α : Type} : Build α :=
  throw .markup

def next? : Build (Option Token) := do
  pure (← get).tokens.head?

def advance : Build Unit :=
  modify fun stream => { stream with tokens := stream.tokens.tail }

def isNext (tokens : List Token) : Build Bool := do
  pure ((← next?).any tokens.contains)

def accept (token : Token) : Build Bool := do
  if ← isNext [token] then do
    advance
    pure true
  else pure false

def expect (token : Token) : Build Unit := do
  if !(← accept token) then bad

def fullTag (tag : Tag) : Build String := do
  match tag.handle with
  | none => pure tag.suffix
  | some handle => match (← get).handles.lookup handle with
      | some start => pure (start ++ tag.suffix)
      | none => bad

def anchor? : Build (Option String) := do
  match ← next? with
  | some (.anchor name) => do
      advance
      pure (some name)
  | _ => pure none

def tag? : Build (Option String) := do
  match ← next? with
  | some (.tag tag) => do
      advance
      pure (some (← fullTag tag))
  | _ => pure none

def properties : Build (Option String × Option String) := do
  match ← anchor? with
  | some name => do pure (some name, ← tag?)
  | none => do
      let tag ← tag?
      let anchor ← if tag.isSome then anchor? else pure none
      pure (anchor, tag)

def noteName (name : String) : Build Unit := do
  if (← get).names.contains name then bad
  modify fun stream => { stream with names := name :: stream.names }

/-- The kind of a container: a lone mark tells nothing. -/
def containerKind (usual : Kind) (tag : Option String) : Kind :=
  match tag with
  | none => usual
  | some "!" => usual
  | some tag => .ofTag tag

/-- The kind of a scalar. Quoted ones are texts, unless a lone mark says otherwise. -/
def scalarKind (isBare : Bool) (tag : Option String) (text : List Char) : Kind :=
  match tag with
  | none => if isBare then plainKind text else .str
  | some "!" => plainKind text
  | some tag => .ofTag tag

structure Place where
  inBlock : Bool
  /-- A list may begin here without an indentation. -/
  indentless : Bool := false

def blockPlace : Place := { inBlock := true }

def entryPlace : Place := { inBlock := true, indentless := true }

def flowPlace : Place := { inBlock := false }

mutual

def read (place : Place) : (fuel : Nat) → Build Node
  | 0 => bad
  | fuel + 1 => do
      match ← next? with
      | some (.alias name) => do
          advance
          if (← get).names.contains name then pure (.alias name) else bad
      | _ => do
          let (anchor, tag) ← properties
          match anchor with
          | none => readContent place tag (tag.isSome) fuel
          | some name => do
              noteName name
              let node ← readContent place tag true fuel
              modify fun stream => { stream with nodes := (name, node) :: stream.nodes }
              pure (.anchored name node)

/-- Reads a node behind its anchor and its tag; one that has some may be empty. -/
def readContent (place : Place) (tag : Option String) (mayBeEmpty : Bool) :
    (fuel : Nat) → Build Node
  | 0 => bad
  | fuel + 1 => do
      match ← next? with
      | some (.scalar isBare text) => do
          advance
          pure (.scalar (scalarKind isBare tag text) text)
      | some .flowSequenceStart => do
          advance
          pure (.sequence (containerKind .sequence tag) (← readFlowItems true fuel))
      | some .flowMappingStart => do
          advance
          pure (.mapping (containerKind .mapping tag) (← readFlowEntries true fuel))
      | token =>
          if token = some .entry ∧ place.indentless then do
            pure (.sequence (containerKind .sequence tag) (← readIndentless fuel))
          else if token = some .blockSequenceStart ∧ place.inBlock then do
            advance
            pure (.sequence (containerKind .sequence tag) (← readItems fuel))
          else if token = some .blockMappingStart ∧ place.inBlock then do
            advance
            pure (.mapping (containerKind .mapping tag) (← readEntries fuel))
          else if mayBeEmpty then pure (.scalar (scalarKind true tag []) [])
          else bad

def readUnless (stops : List Token) (place : Place) : (fuel : Nat) → Build Node
  | 0 => bad
  | fuel + 1 => do
      if ← isNext stops then pure empty else read place fuel

def readValue (stops : List Token) (place : Place) : (fuel : Nat) → Build Node
  | 0 => bad
  | fuel + 1 => do
      if ← accept .value then readUnless stops place fuel else pure empty

def readItems : (fuel : Nat) → Build (List Node)
  | 0 => bad
  | fuel + 1 => do
      if ← accept .entry then do
        let item ← readUnless [.entry, .blockEnd] blockPlace fuel
        pure (item :: (← readItems fuel))
      else do
        expect .blockEnd
        pure []

def readIndentless : (fuel : Nat) → Build (List Node)
  | 0 => bad
  | fuel + 1 => do
      if ← accept .entry then do
        let item ← readUnless [.entry, .key, .value, .blockEnd] blockPlace fuel
        pure (item :: (← readIndentless fuel))
      else pure []

def readEntries : (fuel : Nat) → Build (List (Node × Node))
  | 0 => bad
  | fuel + 1 => do
      if ← accept .key then do
        let key ← readUnless [.key, .value, .blockEnd] entryPlace fuel
        let value ← readValue [.key, .value, .blockEnd] entryPlace fuel
        pure ((key, value) :: (← readEntries fuel))
      else do
        expect .blockEnd
        pure []

/-- The items of a list in brackets. An item with a colon is a mapping. -/
def readFlowItems (first : Bool) : (fuel : Nat) → Build (List Node)
  | 0 => bad
  | fuel + 1 => do
      if ← accept .flowSequenceEnd then pure []
      else do
        if !first then expect .comma
        if ← accept .key then do
          let key ← readUnless [.value, .comma, .flowSequenceEnd] flowPlace fuel
          let value ← readValue [.comma, .flowSequenceEnd] flowPlace fuel
          pure (.mapping .mapping [(key, value)] :: (← readFlowItems false fuel))
        else if ← accept .flowSequenceEnd then pure []
        else do
          let item ← read flowPlace fuel
          pure (item :: (← readFlowItems false fuel))

def readFlowEntries (first : Bool) : (fuel : Nat) → Build (List (Node × Node))
  | 0 => bad
  | fuel + 1 => do
      if ← accept .flowMappingEnd then pure []
      else do
        if !first then expect .comma
        if ← accept .key then do
          let key ← readUnless [.value, .comma, .flowMappingEnd] flowPlace fuel
          let value ← readValue [.comma, .flowMappingEnd] flowPlace fuel
          pure ((key, value) :: (← readFlowEntries false fuel))
        else if ← accept .flowMappingEnd then pure []
        else do
          let key ← read flowPlace fuel
          pure ((key, empty) :: (← readFlowEntries false fuel))

end

/-- A bound for reading: every second step reads a token at least. -/
def fuel : Build Nat := do
  pure (4 * (← get).tokens.length + 4)

def directive? : Build (Option Directive) := do
  match ← next? with
  | some (.directive directive) => pure (some directive)
  | _ => pure none

/-- The directives in front of a document: at most one version, which has to be 1, and
at most one meaning for each handle. -/
def readDirectives (versioned : Bool) (handles : List (String × String)) :
    (fuel : Nat) → Build (List (String × String))
  | 0 => bad
  | fuel + 1 => do
      match ← directive? with
      | none => pure handles
      | some directive => do
          advance
          match directive with
          | .version major =>
              if versioned || major ≠ 1 then bad else readDirectives true handles fuel
          | .tag handle start =>
              if (handles.lookup handle).isSome then bad
              else readDirectives versioned ((handle, start) :: handles) fuel
          | .other => readDirectives versioned handles fuel

def readMarked : Build Node := do
  let handles ← readDirectives false [] (← fuel)
  modify fun stream => { stream with handles := handles ++ stream.handles }
  expect .documentStart
  let ended := (← next?).isNone || (← directive?).isSome ||
    (← isNext [.documentStart, .documentEnd])
  if ended then pure empty else read blockPlace (← fuel)

def readDocument : Build (Option Node) := do
  if (← next?).isNone then pure none
  else do
    let marked := (← directive?).isSome || (← isNext [.documentStart])
    let node ← if marked then readMarked else read blockPlace (← fuel)
    let rest := (← get).tokens.dropWhile fun token => token == .documentEnd
    if rest.isEmpty then pure (some node) else bad

structure Document where
  root : Node
  anchors : List (String × Node)

def ofTokens (tokens : List Token) : Except Problem (Option Document) := do
  let (root, stream) ← readDocument.run { tokens }
  pure (root.map fun root => { root, anchors := stream.nodes })

end Node
end RouteDocs.Yaml
