import RouteDocs.Fault
import RouteDocs.Yaml.Scalar

/-! Reading a text from its start, with an eye on lines and columns. -/

namespace RouteDocs.Yaml

inductive Problem where
  | markup
  | fault (fault : Fault)
  deriving Repr, Inhabited

structure Cursor where
  rest : List Char
  index : Nat := 0
  line : Nat := 0
  column : Nat := 0
  deriving Repr

def endsLine (c : Char) : Bool :=
  c = '\r' || isBreak c

def isEnd (c : Char) : Bool :=
  c = '\x00' || endsLine c

def isEndOrSpace (c : Char) : Bool :=
  c = ' ' || isEnd c

def isSpaceOrTab (c : Char) : Bool :=
  c = ' ' || c = '\t'

def isNamePart (c : Char) : Bool :=
  c.isAlphanum || c = '-' || c = '_'

def isHexDigit (c : Char) : Bool :=
  c.isDigit || ('a' ≤ c && c ≤ 'f') || ('A' ≤ c && c ≤ 'F')

def hexDigitValue (c : Char) : Nat :=
  if c.isDigit then c.toNat - 0x30 else 10 + (c.toLower.toNat - 0x61)

def readHex (digits : List Char) : Nat :=
  digits.foldl (fun n c => 16 * n + hexDigitValue c) 0

namespace Cursor

/-- The cursor behind a character. Byte order marks take no column, and a carriage
return with a line feed behind it ends no line yet. -/
def next (cursor : Cursor) : Cursor :=
  match cursor.rest with
  | [] => cursor
  | c :: rest =>
      let index := cursor.index + 1
      if isBreak c || (c = '\r' && rest.head? != some '\n') then
        { rest, index, line := cursor.line + 1 }
      else
        { rest, index, line := cursor.line
          column := if c = '\ufeff' then cursor.column else cursor.column + 1 }

def skip (cursor : Cursor) : (count : Nat) → Cursor
  | 0 => cursor
  | count + 1 => cursor.next.skip count

end Cursor

abbrev Reader := StateT Cursor (Except Problem)

namespace Reader

def fail {α : Type} : Reader α :=
  throw .markup

/-- The character at a distance; behind the end there is NUL. -/
def peekAt (distance : Nat) : Reader Char := do
  pure ((← get).rest.drop distance |>.headD '\x00')

def peek : Reader Char :=
  peekAt 0

def skip (count : Nat) : Reader Unit :=
  modify fun cursor => cursor.skip count

def take (count : Nat) : Reader (List Char) := do
  let found := (← get).rest.take count
  skip found.length
  pure found

def takeWhile (p : Char → Bool) : Reader (List Char) := do
  let found := (← get).rest.takeWhile p
  skip found.length
  pure found

def skipWhile (p : Char → Bool) : Reader Unit := do
  let _ ← takeWhile p

/-- A bound for loops that read at least one character each time. -/
def fuel : Reader Nat := do
  pure ((← get).rest.length + 1)

/-- Reads a line break, if there is one. All breaks become line feeds, except for the
separators of lines and of paragraphs. -/
def lineBreak : Reader (List Char) := do
  let c ← peek
  if c = '\r' && (← peekAt 1) = '\n' then
    skip 2
    pure ['\n']
  else if c = '\u2028' || c = '\u2029' then
    skip 1
    pure [c]
  else if endsLine c then
    skip 1
    pure ['\n']
  else pure []

def atMarker : Reader Bool := do
  let marker := (← get).rest.take 3
  pure ((marker == ['-', '-', '-'] || marker == ['.', '.', '.']) && isGapOrBreak (← peekAt 3))

/-- Skips spaces and a comment; nothing else may stand before the end of the line. -/
def finishLine : Reader Unit := do
  skipWhile (· = ' ')
  if (← peek) = '#' then
    skipWhile fun c => !isEnd c
  if !isEnd (← peek) then fail
  let _ ← lineBreak

/-- How breaks between two lines of a text count: a single line feed becomes a space. -/
def foldBreaks (first more : List Char) : List Char :=
  if first != ['\n'] then first ++ more
  else if more.isEmpty then [' ']
  else more

end Reader
end RouteDocs.Yaml
