import RouteDocs.Yaml.Cursor

/-! Texts without quotes. -/

namespace RouteDocs.Yaml.Bare

open Reader

def starts (inFlow : Bool) (c next : Char) : Bool :=
  (!isGapOrBreak c && !"-?:,[]\x7b\x7d#&*!|>'\"%@\x60".toList.contains c) ||
    (!isGapOrBreak next && (c = '-' || (!inFlow && (c = '?' || c = ':'))))

def isFlowEnd (c : Char) : Bool :=
  ",?[]\x7b\x7d".toList.contains c

def followsColon (inFlow : Bool) (c : Char) : Bool :=
  isGapOrBreak c || (inFlow && ",[]\x7b\x7d".toList.contains c)

def word (inFlow : Bool) : List Char → List Char
  | [] => []
  | c :: rest =>
      if isGapOrBreak c || (c = ':' && followsColon inFlow (rest.headD '\x00')) ||
          (inFlow && isFlowEnd c) then []
      else c :: word inFlow rest

/-- Blank lines inside a text; none if a marker ends it. -/
def breaks : (fuel : Nat) → Reader (Option (List Char))
  | 0 => fail
  | fuel + 1 => do
      skipWhile (· = ' ')
      match ← lineBreak with
      | [] => pure (some [])
      | found =>
          if ← atMarker then pure none
          else do pure ((← breaks fuel).map fun more => found ++ more)

/-- What stands between two words, and whether a line ended there. -/
def gap : Reader (List Char × Bool) := do
  let spaces ← takeWhile (· = ' ')
  if !endsLine (← peek) then pure (spaces, false)
  else do
    let first ← lineBreak
    if ← atMarker then pure ([], true)
    else match ← breaks (← fuel) with
      | none => pure ([], true)
      | some more => pure (foldBreaks first more, true)

/-- The words of a text behind what stands before them, and whether a line ended after
the last one. The lines of a text outside brackets are indented by `indent`. -/
def words (inFlow : Bool) (indent : Nat) (before : List Char) (broken : Bool) :
    (fuel : Nat) → Reader (List Char × Bool)
  | 0 => fail
  | fuel + 1 => do
      if (← peek) = '#' then pure ([], broken)
      else match word inFlow (← get).rest with
        | [] => pure ([], broken)
        | found => do
            skip found.length
            let (after, broken) ← gap
            if after.isEmpty || (← peek) = '#' || (!inFlow && (← get).column < indent) then
              pure (before ++ found, broken)
            else do
              let (text, broken) ← words inFlow indent after broken fuel
              pure (before ++ found ++ text, broken)

def scalar (inFlow : Bool) (parent : Option Nat) : Reader (List Char × Bool) := do
  let indent := match parent with
    | none => 0
    | some column => column + 1
  words inFlow indent [] false (← fuel)

end RouteDocs.Yaml.Bare
