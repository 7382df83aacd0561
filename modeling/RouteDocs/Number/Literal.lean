import RouteDocs.Number.Double
import RouteDocs.Text.Blank
import RouteDocs.Text.Category

/-! Reading numbers written by people: digits of any script, single underscores
between digits, white space around. -/

namespace RouteDocs.Literal

def isAsciiBlank (c : Char) : Bool :=
  c == ' ' || ('\t' ≤ c && c ≤ '\r')

def dropBlanks (s : List Char) : List Char :=
  ((s.dropWhile isAsciiBlank).reverse.dropWhile isAsciiBlank).reverse

/-- Digits of other scripts become ASCII digits and white space of other scripts
becomes a space. A text of ASCII characters alone stays as it is. -/
def toAscii (s : List Char) : List Char :=
  if s.all fun c => c.toNat < 128 then s
  else s.map fun c =>
    if c.toNat < 128 then c
    else if Text.isBlank c then ' '
    else match Text.digitValue? c with
      | some value => Char.ofNat (0x30 + value)
      | none => '?'

def readSign : List Char → Bool × List Char
  | '-' :: rest => (true, rest)
  | '+' :: rest => (false, rest)
  | rest => (false, rest)

/-- Reads digits and single underscores between them. `value` and `count` are
those of the digits read so far; `last` tells whether a digit came last. -/
def readDigitsFrom (value count : Nat) (last : Bool) : List Char → Nat × Nat × Bool × List Char
  | [] => (value, count, last, [])
  | c :: rest =>
      if c.isDigit then readDigitsFrom (10 * value + (c.toNat - 0x30)) (count + 1) true rest
      else if c == '_' && last then
        match rest with
        | d :: _ =>
            if d.isDigit then readDigitsFrom value count false rest
            else (value, count, last, c :: rest)
        | [] => (value, count, last, c :: rest)
      else (value, count, last, c :: rest)

def readDigits (s : List Char) : Nat × Nat × List Char :=
  let (value, count, _, rest) := readDigitsFrom 0 0 false s
  (value, count, rest)

/-- The greatest number of digits an integer may be written with. -/
def digitLimit : Nat := 4300

def readInt? (s : List Char) : Option Int :=
  let (negative, s) := readSign (dropBlanks (toAscii s))
  let (value, count, rest) := readDigits s
  if count == 0 || !rest.isEmpty || digitLimit < count then none
  else some (if negative then -(value : Int) else value)

def readExponent? : List Char → Option Int
  | [] => some 0
  | c :: rest =>
      if c == 'e' || c == 'E' then
        let (negative, rest) := readSign rest
        let (value, count, rest) := readDigits rest
        if count == 0 || !rest.isEmpty then none
        else some (if negative then -(value : Int) else value)
      else none

def readDecimal? (negative : Bool) (s : List Char) : Option Double :=
  let (whole, wholeCount, rest) := readDigits s
  let (digits, fractionCount, rest) :=
    match rest with
    | '.' :: rest =>
        let (fraction, count, rest) := readDigits rest
        (whole * Nat.pow 10 count + fraction, count, rest)
    | rest => (whole, 0, rest)
  if wholeCount + fractionCount == 0 then none
  else (readExponent? rest).map fun exponent =>
    Double.ofDecimal negative digits (exponent - fractionCount)

def readDouble? (s : List Char) : Option Double :=
  let (negative, s) := readSign (dropBlanks (toAscii s))
  let name := String.ofList (s.map Char.toLower)
  if name == "inf" || name == "infinity" then some (.infinity negative)
  else if name == "nan" then some .nan
  else readDecimal? negative s

end RouteDocs.Literal
