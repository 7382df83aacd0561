/-!
Binary floating-point numbers with 53 significant bits, as exact data. Every
operation computes the exact rational result and rounds it once, to the nearest
number and from a tie to the one with an even mantissa.
-/

namespace RouteDocs

/-- The finite number is `± mantissa * 2 ^ exponent`. Numbers made by `round`
have `mantissa < 2 ^ 53` and `-1074 ≤ exponent ≤ 971`, and a mantissa below
`2 ^ 52` only at exponent `-1074`. -/
inductive Double where
  | nan
  | infinity (negative : Bool)
  | finite (negative : Bool) (mantissa : Nat) (exponent : Int)
  deriving DecidableEq, Repr, Inhabited

namespace Double

/-- The nearest integer to `num / den`, and of two the even one. -/
def roundQuotient (num den : Nat) : Nat :=
  let quotient := num / den
  let rest := 2 * (num % den)
  if den < rest || (rest == den && quotient % 2 == 1) then quotient + 1 else quotient

/-- `num / den * 2 ^ shift` as a quotient of natural numbers. -/
def scale (num den : Nat) (shift : Int) : Nat × Nat :=
  if 0 ≤ shift then (num * Nat.pow 2 shift.toNat, den) else (num, den * Nat.pow 2 (-shift).toNat)

def round (negative : Bool) (num den : Nat) : Double :=
  if num == 0 then .finite negative 0 (-1074)
  else
    let low := max ((Nat.log2 num : Int) - (Nat.log2 den : Int) - 53) (-1074)
    let (num₁, den₁) := scale num den (-low)
    let exponent := if Nat.pow 2 53 ≤ num₁ / den₁ then low + 1 else low
    let (num₂, den₂) := scale num den (-exponent)
    let mantissa := roundQuotient num₂ den₂
    let (mantissa, exponent) :=
      if mantissa == Nat.pow 2 53 then (Nat.pow 2 52, exponent + 1) else (mantissa, exponent)
    if 971 < exponent then .infinity negative else .finite negative mantissa exponent

def zero : Double := .finite false 0 (-1074)

def magnitude (mantissa : Nat) (exponent : Int) : Nat × Nat :=
  scale mantissa 1 exponent

/-- The number nearest to `num / den` for an integer `num`; a zero gets the sign
`zeroSign`. -/
def ofQuotient (zeroSign : Bool) (num : Int) (den : Nat) : Double :=
  if num == 0 then .finite zeroSign 0 (-1074) else round (num < 0) num.natAbs den

def ofInt? (n : Int) : Option Double :=
  match ofQuotient false n 1 with
  | .infinity _ => none
  | x => some x

def toQuotient (negative : Bool) (mantissa : Nat) (exponent : Int) : Int × Nat :=
  let (num, den) := magnitude mantissa exponent
  (if negative then -(num : Int) else num, den)

def neg : Double → Double
  | nan => nan
  | infinity negative => infinity !negative
  | finite negative mantissa exponent => finite (!negative) mantissa exponent

def add : Double → Double → Double
  | nan, _ => nan
  | _, nan => nan
  | infinity a, infinity b => if a == b then infinity a else nan
  | infinity a, finite .. => infinity a
  | finite .., infinity b => infinity b
  | finite a m e, finite b n f =>
      let (x, d) := toQuotient a m e
      let (y, c) := toQuotient b n f
      ofQuotient (a && b) (x * c + y * d) (d * c)

def sub (x y : Double) : Double :=
  add x (neg y)

def mul : Double → Double → Double
  | nan, _ => nan
  | _, nan => nan
  | infinity a, infinity b => infinity (a != b)
  | infinity a, finite b n _ => if n == 0 then nan else infinity (a != b)
  | finite a m _, infinity b => if m == 0 then nan else infinity (a != b)
  | finite a m e, finite b n f =>
      let (x, d) := magnitude m e
      let (y, c) := magnitude n f
      round (a != b) (x * y) (d * c)

/-- The order of the values; none for a comparison with `nan`. -/
def compare? : Double → Double → Option Ordering
  | nan, _ => none
  | _, nan => none
  | infinity a, infinity b => some (compare b.toNat a.toNat)
  | infinity a, finite .. => some (if a then .lt else .gt)
  | finite .., infinity b => some (if b then .gt else .lt)
  | finite a m e, finite b n f =>
      let (x, d) := toQuotient a m e
      let (y, c) := toQuotient b n f
      some (compare (x * c) (y * d))

def compareInt? : Double → Int → Option Ordering
  | nan, _ => none
  | infinity a, _ => some (if a then .lt else .gt)
  | finite a m e, n =>
      let (x, d) := toQuotient a m e
      some (compare x (n * d))

def truncate? : Double → Option Int
  | finite a m e =>
      let (x, d) := toQuotient a m e
      some (Int.tdiv x d)
  | _ => none

def isFractional : Double → Bool
  | finite a m e =>
      let (x, d) := toQuotient a m e
      Int.tmod x d != 0
  | _ => false

/-- The number rounded to `places` decimal places, a tie going to the even
neighbour. -/
def roundPlaces (places : Nat) : Double → Double
  | finite a m e =>
      let (x, d) := magnitude m e
      round a (roundQuotient (x * Nat.pow 10 places) d) (Nat.pow 10 places)
  | x => x

/-- The number nearest to `± digits * 10 ^ power`. Powers that are far out of
range are settled by the number of digits. -/
def ofDecimal (negative : Bool) (digits : Nat) (power : Int) : Double :=
  let size : Int := (Nat.log2 digits : Int) * 3 / 10 + power
  if digits == 0 then .finite negative 0 (-1074)
  else if 400 < size then .infinity negative
  else if size < -800 then .finite negative 0 (-1074)
  else if 0 ≤ power then round negative (digits * Nat.pow 10 power.toNat) 1
  else round negative digits (Nat.pow 10 (-power).toNat)

end Double
end RouteDocs
