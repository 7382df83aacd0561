import RouteDocs.Number.Double

/-! The fewest decimal digits that read back as the same number. -/

namespace RouteDocs.Double

def decimalLength (n : Nat) : Nat :=
  (Nat.toDigits 10 n).length

/-- The `e` with `10 ^ e ≤ num / den < 10 ^ (e + 1)`, for a positive quotient. -/
def decade (num den : Nat) : Int :=
  if den ≤ num then (decimalLength (num / den) : Int) - 1
  else -(decimalLength ((den + num - 1) / num - 1) : Int)

/-- The two neighbours of `num / den` on the grid of multiples of `10 ^ power`,
the nearer one first. -/
def gridNeighbours (num den : Nat) (power : Int) : List Nat :=
  let (num, den) :=
    if 0 ≤ power then (num, den * Nat.pow 10 power.toNat)
    else (num * Nat.pow 10 (-power).toNat, den)
  let low := num / den
  let rest := num % den
  if rest == 0 then [low]
  else if 2 * rest < den || (2 * rest == den && low % 2 == 0) then [low, low + 1]
  else [low + 1, low]

/-- Digits and power of ten of the shortest decimal that rounds to the number
`round false num den`, of the two nearest to it. Grids from `count` digits on
are tried, at most `tries` of them. -/
def shortestFrom (num den : Nat) (top : Int) (count : Nat) : (tries : Nat) → Nat × Int
  | 0 => (num / den, 0)
  | tries + 1 =>
      let power := top - count + 1
      match (gridNeighbours num den power).find? fun digits =>
          ofDecimal false digits power == round false num den with
      | some digits => (digits, power)
      | none => shortestFrom num den top (count + 1) tries

def shortest (mantissa : Nat) (exponent : Int) : Nat × Int :=
  let (num, den) := magnitude mantissa exponent
  shortestFrom num den (decade num den) 1 17

/-- How a number is written: positional from `10 ^ low` to below `10 ^ high`,
otherwise with an exponent of at least two digits. -/
structure Style where
  low : Int
  high : Int
  nan : String
  infinity : String

def stripZeros (digits : List Char) : List Char :=
  (digits.reverse.dropWhile (· == '0')).reverse

def writeExponent (e : Int) : List Char :=
  let digits := Nat.toDigits 10 e.natAbs
  (if e < 0 then '-' else '+') :: (if digits.length < 2 then '0' :: digits else digits)

/-- Writes `0.d₁d₂… * 10 ^ point`. -/
def layout (style : Style) (digits : List Char) (point : Int) : List Char :=
  if style.low < point && point ≤ style.high then
    if point ≤ 0 then
      '0' :: '.' :: (List.replicate (-point).toNat '0' ++ digits)
    else if digits.length ≤ point.toNat then
      digits ++ List.replicate (point.toNat - digits.length) '0' ++ ['.', '0']
    else
      digits.take point.toNat ++ '.' :: digits.drop point.toNat
  else
    digits.take 1 ++ (if digits.length ≤ 1 then [] else '.' :: digits.drop 1) ++
      'e' :: writeExponent (point - 1)

def write (style : Style) : Double → String
  | nan => style.nan
  | infinity negative => (if negative then "-" else "") ++ style.infinity
  | finite negative mantissa exponent =>
      let body :=
        if mantissa == 0 then ['0', '.', '0']
        else
          let (digits, power) := shortest mantissa exponent
          let digits := Nat.toDigits 10 digits
          let point := (digits.length : Int) + power
          layout style (stripZeros digits) point
      String.ofList (if negative then '-' :: body else body)

/-- Numbers from one ten-thousandth to below ten to the sixteenth are written
without an exponent. -/
def plainStyle : Style := ⟨-4, 16, "nan", "inf"⟩

def toText (x : Double) : String :=
  x.write plainStyle

end RouteDocs.Double
