import RouteDocs.Yaml.Bare
import RouteDocs.Yaml.Block
import RouteDocs.Yaml.Quoted
import RouteDocs.Yaml.Tag

/-!
From text to tokens. Indentation becomes the starts and the ends of blocks, and a colon
tells that what stands before it in its line is a key.
-/

namespace RouteDocs.Yaml

inductive Token where
  | directive (directive : Directive)
  | documentStart
  | documentEnd
  | blockSequenceStart
  | blockMappingStart
  | blockEnd
  | flowSequenceStart
  | flowSequenceEnd
  | flowMappingStart
  | flowMappingEnd
  | entry
  | comma
  | key
  | value
  | alias (name : String)
  | anchor (name : String)
  | tag (tag : Tag)
  | scalar (isBare : Bool) (text : List Char)
  deriving DecidableEq, Repr, Inhabited

/-- What may turn out to be a key: the place of its first token, and where it stands. -/
structure Candidate where
  place : Nat
  required : Bool
  cursor : Cursor

structure Layout where
  /-- The tokens, the last one first. -/
  tokens : List Token := []
  blocks : List Nat := []
  keyAllowed : Bool := true
  /-- The possible key in the innermost brackets, or outside of all. -/
  candidate : Option Candidate := none
  /-- The possible keys around each pair of open brackets, the innermost first. -/
  outer : List (Option Candidate) := []

namespace Layout

abbrev Step := StateT Layout Reader

open Reader

def bad {α : Type} : Step α :=
  throw .markup

def inFlow : Step Bool := do
  pure !(← get).outer.isEmpty

def put (token : Token) : Step Unit :=
  modify fun layout => { layout with tokens := token :: layout.tokens }

def putAt (place : Nat) (added : List Token) : Step Unit :=
  modify fun layout =>
    let after := layout.tokens.length - place
    { layout with
      tokens := layout.tokens.take after ++ added.reverse ++ layout.tokens.drop after }

def allowKey (allowed : Bool) : Step Unit :=
  modify fun layout => { layout with keyAllowed := allowed }

/-- Spaces, comments and breaks. Keys may stand in a new line outside brackets. -/
def skipGaps : (fuel : Nat) → Step Unit
  | 0 => bad
  | fuel + 1 => do
      skipWhile (· = ' ')
      if (← peek) = '#' then
        skipWhile fun c => !isEnd c
      if !(← lineBreak).isEmpty then do
        if !(← inFlow) then allowKey true
        skipGaps fuel

/-- The greatest distance between the start of a key and its colon. -/
def keySpan : Nat := 1024

/-- A possible key that is left behind is none; it must not be a required one. -/
def dropStale (cursor : Cursor) (candidate : Option Candidate) : Step (Option Candidate) :=
  match candidate with
  | none => pure none
  | some c =>
      if c.cursor.line ≠ cursor.line ∨ keySpan < cursor.index - c.cursor.index then
        if c.required then bad else pure none
      else pure (some c)

def dropAllStale : Step Unit := do
  let cursor ← getThe Cursor
  let layout ← getThe Layout
  let candidate ← dropStale cursor layout.candidate
  let outer ← layout.outer.mapM (dropStale cursor)
  modify fun layout => { layout with candidate, outer }

def forgetCandidate : Step Unit := do
  match (← getThe Layout).candidate with
  | none => pure ()
  | some c =>
      if c.required then bad
      modify fun layout => { layout with candidate := none }

def noteCandidate : Step Unit := do
  let layout ← getThe Layout
  if layout.keyAllowed then do
    forgetCandidate
    let cursor ← getThe Cursor
    let required := layout.outer.isEmpty && layout.blocks.head? == some cursor.column
    modify fun layout =>
      { layout with candidate := some { place := layout.tokens.length, required, cursor } }

def closeBlocks (column : Option Nat) : Step Unit := do
  let layout ← getThe Layout
  if layout.outer.isEmpty then do
    let inside (block : Nat) : Bool := column.all (· < block)
    let closed := (layout.blocks.takeWhile inside).length
    modify fun layout =>
      { layout with
        blocks := layout.blocks.drop closed
        tokens := List.replicate closed .blockEnd ++ layout.tokens }

def openBlock (column : Nat) : Step Bool := do
  if (← getThe Layout).blocks.head?.all (· < column) then do
    modify fun layout => { layout with blocks := column :: layout.blocks }
    pure true
  else pure false

def column : Step Nat := do
  pure (← getThe Cursor).column

def betweenDocuments (token : Token) (length : Nat) : Step Unit := do
  closeBlocks none
  forgetCandidate
  allowKey false
  skip length
  put token

def openBracket (token : Token) : Step Unit := do
  noteCandidate
  allowKey true
  modify fun layout =>
    { layout with outer := layout.candidate :: layout.outer, candidate := none }
  skip 1
  put token

def closeBracket (token : Token) : Step Unit := do
  forgetCandidate
  match (← getThe Layout).outer with
  | [] => bad
  | candidate :: outer => do
      modify fun layout => { layout with candidate, outer, keyAllowed := false }
      skip 1
      put token

def comma : Step Unit := do
  allowKey true
  forgetCandidate
  skip 1
  put .comma

def startBlock (token : Token) : Step Unit := do
  if !(← getThe Layout).keyAllowed then bad
  if ← openBlock (← column) then put token

/-- An entry of a list. There are none inside brackets. -/
def entry : Step Unit := do
  if ← inFlow then bad
  startBlock .blockSequenceStart
  allowKey true
  forgetCandidate
  skip 1
  put .entry

def markedKey : Step Unit := do
  if !(← inFlow) then startBlock .blockMappingStart
  allowKey (!(← inFlow))
  forgetCandidate
  skip 1
  put .key

def value : Step Unit := do
  match (← getThe Layout).candidate with
  | some c => do
      modify fun layout => { layout with candidate := none, keyAllowed := false }
      let opened ← if ← inFlow then pure false else openBlock c.cursor.column
      putAt c.place (if opened then [.blockMappingStart, .key] else [.key])
  | none => do
      if !(← inFlow) then startBlock .blockMappingStart
      allowKey (!(← inFlow))
  skip 1
  put .value

def begin (read : Reader Token) : Step Unit := do
  noteCandidate
  allowKey false
  put (← read)

def block (folded : Bool) : Step Unit := do
  allowKey true
  forgetCandidate
  let parent := (← getThe Layout).blocks.head?
  put (.scalar false (← Block.scalar folded parent))

def bare : Step Unit := do
  noteCandidate
  let layout ← getThe Layout
  let (text, broken) ← Bare.scalar (!layout.outer.isEmpty) layout.blocks.head?
  allowKey broken
  put (.scalar true text)

/-- Reads the next token, which begins with the characters `c` and `next`. -/
def read (c next : Char) : Step Unit := do
  let inFlow ← inFlow
  let atStart := (← column) = 0
  let alone := isGapOrBreak next
  if c = '%' && atStart then do
    closeBlocks none
    forgetCandidate
    allowKey false
    put (.directive (← Directive.read))
  else if c = '-' && atStart && (← atMarker) then betweenDocuments .documentStart 3
  else if c = '.' && atStart && (← atMarker) then betweenDocuments .documentEnd 3
  else if c = '[' then openBracket .flowSequenceStart
  else if c = '\x7b' then openBracket .flowMappingStart
  else if c = ']' then closeBracket .flowSequenceEnd
  else if c = '\x7d' then closeBracket .flowMappingEnd
  else if c = ',' then comma
  else if c = '-' && alone then entry
  else if c = '?' && (inFlow || alone) then markedKey
  else if c = ':' && (inFlow || alone) then value
  else if c = '*' then begin do pure (.alias (← Tag.anchor))
  else if c = '&' then begin do pure (.anchor (← Tag.anchor))
  else if c = '!' then begin do pure (.tag (← Tag.read))
  else if c = '|' && !inFlow then block false
  else if c = '>' && !inFlow then block true
  else if c = '\x27' then begin do pure (.scalar false (← Quoted.scalar false))
  else if c = '\x22' then begin do pure (.scalar false (← Quoted.scalar true))
  else if Bare.starts inFlow c next then bare
  else bad

def readAll : (fuel : Nat) → Step Unit
  | 0 => bad
  | fuel + 1 => do
      skipGaps (← Reader.fuel)
      dropAllStale
      match (← getThe Cursor).rest with
      | [] => do
          closeBlocks none
          forgetCandidate
      | c :: rest => do
          closeBlocks (some (← column))
          read c (rest.headD '\x00')
          readAll fuel

def isPrintable (c : Char) : Bool :=
  let n := c.toNat
  n = 0x09 || n = 0x0a || n = 0x0d || (0x20 ≤ n && n ≤ 0x7e) || n = 0x85 ||
    (0xa0 ≤ n && n ≤ 0xd7ff) || (0xe000 ≤ n && n ≤ 0xfffd) || 0x10000 ≤ n

/-- A text without the byte order mark in front of it, which counts all the same. -/
def startOf (text : List Char) : Cursor :=
  match text with
  | '\ufeff' :: rest => { rest, index := 1 }
  | text => { rest := text }

end Layout

def Token.ofText (text : List Char) : Except Problem (List Token) := do
  if text.any fun c => !Layout.isPrintable c then throw .markup
  let ((_, layout), _) ←
    ((Layout.readAll (text.length + 1)).run {}).run (Layout.startOf text)
  pure layout.tokens.reverse

end RouteDocs.Yaml
