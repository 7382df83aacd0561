import RouteDocs.Yaml.Cursor

/-! Texts in indented blocks, where breaks are kept or folded. -/

namespace RouteDocs.Yaml.Block

open Reader

inductive Chomping where
  | strip
  | clip
  | keep
  deriving DecidableEq, Repr

structure Header where
  chomping : Chomping := .clip
  increment : Option Nat := none
  deriving Repr

def chomping? (c : Char) : Option Chomping :=
  if c = '+' then some .keep else if c = '-' then some .strip else none

def increment : Reader (Option Nat) := do
  let c ← peek
  if !c.isDigit then pure none
  else if c = '0' then fail
  else do
    skip 1
    pure (some (c.toNat - 0x30))

def chomping : Reader (Option Chomping) := do
  match chomping? (← peek) with
  | none => pure none
  | some found => do
      skip 1
      pure (some found)

def header : Reader Header := do
  let before ← chomping
  let increment ← increment
  let after ← if before.isSome then pure none else if increment.isSome then chomping else pure none
  if !isEndOrSpace (← peek) then fail
  pure { chomping := (before.or after).getD .clip, increment }

/-- Blank lines in front of a block, and the greatest column that their spaces reach. -/
def leadingBreaks (deepest : Nat) : (fuel : Nat) → Reader (List Char × Nat)
  | 0 => fail
  | fuel + 1 => do
      if (← peek) = ' ' then do
        skip 1
        leadingBreaks (max deepest (← get).column) fuel
      else match ← lineBreak with
        | [] => pure ([], deepest)
        | found => do
            let (more, deepest) ← leadingBreaks deepest fuel
            pure (found ++ more, deepest)

def skipIndent (indent : Nat) : Reader Unit := do
  let cursor ← get
  let spaces := cursor.rest.takeWhile (· = ' ')
  skip (min spaces.length (indent - cursor.column))

/-- Blank lines, and the indentation of the line behind them. -/
def breaks (indent : Nat) : (fuel : Nat) → Reader (List Char)
  | 0 => fail
  | fuel + 1 => do
      skipIndent indent
      match ← lineBreak with
      | [] => pure []
      | found => do pure (found ++ (← breaks indent fuel))

def inBlock (indent : Nat) : Reader Bool := do
  let cursor ← get
  pure (cursor.column == indent && !cursor.rest.isEmpty)

/-- What stands between two lines of a block. Breaks are folded between lines that do
not begin with white space. -/
def between (folded dense : Bool) (ended : List Char) (more : List Char) (next : Char) :
    List Char :=
  if folded && ended == ['\n'] && dense && !isSpaceOrTab next then
    if more.isEmpty then [' '] else []
  else ended

/-- The lines of a block, each with what stands before it; then the break at the end of
the last line, and those behind it. -/
def lines (folded : Bool) (indent : Nat) (before : List Char) :
    (fuel : Nat) → Reader (List Char × List Char × List Char)
  | 0 => fail
  | fuel + 1 => do
      let dense := !isSpaceOrTab (← peek)
      let line ← takeWhile fun c => !isEnd c
      let ended ← lineBreak
      let more ← breaks indent (← Reader.fuel)
      if ← inBlock indent then do
        let joint := between folded dense ended more (← peek)
        let (text, last) ← lines folded indent (joint ++ more) fuel
        pure (before ++ line ++ text, last)
      else pure (before ++ line, ended, more)

def scalar (folded : Bool) (parent : Option Nat) : Reader (List Char) := do
  skip 1
  let header ← header
  finishLine
  let least := max 1 (match parent with
    | none => 0
    | some column => column + 1)
  let (leading, indent) ← match header.increment with
    | none => do
        let (leading, deepest) ← leadingBreaks 0 (← fuel)
        pure (leading, max least deepest)
    | some increment => do
        let indent := least + increment - 1
        pure (← breaks indent (← fuel), indent)
  let (text, ended, trailing) ←
    if ← inBlock indent then lines folded indent leading (← fuel) else pure ([], [], leading)
  pure (match header.chomping with
    | .strip => text
    | .clip => text ++ ended
    | .keep => text ++ ended ++ trailing)

end RouteDocs.Yaml.Block
