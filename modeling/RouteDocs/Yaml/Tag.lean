import RouteDocs.Yaml.Cursor

/-! Tags, anchors and directives. -/

namespace RouteDocs.Yaml

/-- A tag as it is written: behind a handle, or else as a whole. -/
structure Tag where
  handle : Option String
  suffix : String
  deriving DecidableEq, Repr, Inhabited

inductive Directive where
  | version (major : Nat)
  | tag (handle start : String)
  | other
  deriving DecidableEq, Repr, Inhabited

namespace Tag

open Reader

def standard : String := "tag:yaml.org,2002:"

def isBareChar (c : Char) : Bool :=
  c.isAlphanum || "-;/?:@&=+$,_.!~*'()[]".toList.contains c

def escapedOctets : (fuel : Nat) → Reader (List UInt8)
  | 0 => fail
  | fuel + 1 => do
      if (← peek) ≠ '%' then pure []
      else do
        skip 1
        let digits ← take 2
        if digits.length < 2 || digits.any fun c => !isHexDigit c then fail
        else do pure (UInt8.ofNat (readHex digits) :: (← escapedOctets fuel))

/-- The characters of escaped octets, which have to be UTF-8. -/
def escaped : Reader (List Char) := do
  let octets ← escapedOctets (← fuel)
  match String.fromUTF8? ⟨octets.toArray⟩ with
  | some text => pure text.toList
  | none => fail

def textFrom : (fuel : Nat) → Reader (List Char)
  | 0 => fail
  | fuel + 1 => do
      let bare ← takeWhile isBareChar
      if (← peek) = '%' then do
        let found ← escaped
        pure (bare ++ found ++ (← textFrom fuel))
      else pure bare

def text : Reader String := do
  let start := (← get).index
  let found ← textFrom (← fuel)
  if (← get).index = start then fail else pure (String.ofList found)

def readHandle : Reader String := do
  if (← peek) ≠ '!' then fail
  skip 1
  if (← peek) = ' ' then pure "!"
  else do
    let name ← takeWhile isNamePart
    if (← peek) ≠ '!' then fail
    skip 1
    pure (String.ofList ('!' :: (name ++ ['!'])))

def hasHandle (rest : List Char) : Bool :=
  (rest.takeWhile fun c => !isEndOrSpace c).contains '!'

def read : Reader Tag := do
  let c ← peekAt 1
  let tag : Tag ←
    if c = '<' then do
      skip 2
      let suffix ← text
      if (← peek) ≠ '>' then fail
      skip 1
      pure { handle := none, suffix }
    else if isGapOrBreak c then do
      skip 1
      pure { handle := none, suffix := "!" }
    else if hasHandle ((← get).rest.drop 1) then do
      let handle ← readHandle
      pure { handle := some handle, suffix := ← text }
    else do
      skip 1
      pure { handle := some "!", suffix := ← text }
  if !isEndOrSpace (← peek) then fail
  pure tag

def anchor : Reader String := do
  skip 1
  let name ← takeWhile isNamePart
  let c ← peek
  if name.isEmpty || !(isGapOrBreak c || "?:,]\x7d%@\x60".toList.contains c) then fail
  pure (String.ofList name)

end Tag

namespace Directive

open Reader

def number : Reader Nat := do
  let digits ← takeWhile Char.isDigit
  if digits.isEmpty then fail
  pure (digits.foldl (fun n c => 10 * n + (c.toNat - 0x30)) 0)

/-- A version; only its first number matters. -/
def readVersion : Reader Directive := do
  skipWhile (· = ' ')
  let major ← number
  if (← peek) ≠ '.' then fail
  skip 1
  let _ ← number
  if !isEndOrSpace (← peek) then fail
  pure (.version major)

def readTag : Reader Directive := do
  skipWhile (· = ' ')
  let handle ← Tag.readHandle
  if (← peek) ≠ ' ' then fail
  skipWhile (· = ' ')
  let start ← Tag.text
  if !isEndOrSpace (← peek) then fail
  pure (.tag handle start)

def read : Reader Directive := do
  skip 1
  let name ← takeWhile isNamePart
  if name.isEmpty || !isEndOrSpace (← peek) then fail
  let directive ← match String.ofList name with
    | "YAML" => readVersion
    | "TAG" => readTag
    | _ => do
        skipWhile fun c => !isEnd c
        pure .other
  finishLine
  pure directive

end Directive
end RouteDocs.Yaml
