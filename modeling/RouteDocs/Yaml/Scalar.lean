import RouteDocs.Yaml.Plain

/-! How scalars may be written: bare, in single quotes, in double quotes or as a block. -/

namespace RouteDocs.Yaml

def isBreak (c : Char) : Bool :=
  c = '\n' || c = '\x85' || c = '\u2028' || c = '\u2029'

def isGapOrBreak (c : Char) : Bool :=
  c = '\x00' || c = ' ' || c = '\t' || c = '\r' || isBreak c

def isPlainChar (c : Char) : Bool :=
  let n := c.toNat
  c = '\n' || (0x20 ≤ n && n ≤ 0x7e) || n = 0x85 ||
    (((0xa0 ≤ n && n ≤ 0xd7ff) || (0xe000 ≤ n && n ≤ 0xfffd) ||
      (0x10000 ≤ n && n < 0x10ffff)) && n ≠ 0xfeff)

structure Analysis where
  empty : Bool := false
  multiline : Bool := false
  allowPlain : Bool := true
  allowSingleQuoted : Bool := true
  allowBlock : Bool := true
  deriving Repr

def startsSpecially : List Char → Bool
  | [] => false
  | c :: rest =>
      let alone := rest.head?.all isGapOrBreak
      "#,[]\x7b\x7d&*!|>'\"%@\x60".toList.contains c ||
        ((c = '?' || c = ':' || c = '-') && alone)

/-- Is there a colon before white space, or a number sign behind it? -/
def holdsIndicator (before : Char) : List Char → Bool
  | [] => false
  | c :: rest =>
      (c = ':' && rest.head?.all isGapOrBreak) || (c = '#' && isGapOrBreak before) ||
        holdsIndicator c rest

def holdsPair (first second : Char → Bool) : List Char → Bool
  | c :: d :: rest => (first c && second d) || holdsPair first second (d :: rest)
  | _ => false

def isSpace (c : Char) : Bool :=
  c = ' '

def startsWithMarker (s : List Char) : Bool :=
  s.take 3 == ['-', '-', '-'] || s.take 3 == ['.', '.', '.']

def holdsBlockIndicator (s : List Char) : Bool :=
  startsWithMarker s || startsSpecially s ||
    match s with
    | [] => false
    | c :: rest => holdsIndicator c rest

def analyze (s : List Char) : Analysis :=
  if s.isEmpty then { empty := true, allowBlock := false }
  else
    let multiline := s.any isBreak
    let edge (p : Char → Bool) : Bool := s.head?.any p || s.getLast?.any p
    let special := s.any fun c => !isPlainChar c
    let breakSpace := holdsPair isBreak isSpace s
    let spaceBreak := holdsPair isSpace isBreak s
    { multiline
      allowPlain := !(edge isSpace || edge isBreak || breakSpace || spaceBreak || special ||
        multiline || holdsBlockIndicator s)
      allowSingleQuoted := !(breakSpace || spaceBreak || special)
      allowBlock := !(s.getLast?.any isSpace || spaceBreak || special) }

inductive Style where
  | plain
  | single
  | double
  | literal
  deriving DecidableEq, Repr

/-- The form of a text. Bare texts have to be read back as texts, and keys are written
on one line. -/
def textStyle (isKey : Bool) (s : List Char) : Style :=
  let a := analyze s
  let oneLine := !(isKey && a.multiline)
  if plainKind s = .str ∧ oneLine ∧ a.allowPlain then .plain
  else if a.allowSingleQuoted ∧ oneLine then .single
  else .double

def octetStyle (isKey : Bool) (s : List Char) : Style :=
  if !isKey ∧ (analyze s).allowBlock then .literal else .double

end RouteDocs.Yaml
