import RouteDocs.Text.Blank
import RouteDocs.Text.Cut
import RouteDocs.Value.Basic

/-! Values that stand for whole numbers, such as a status or a seed. -/

namespace RouteDocs.Value

inductive NotWhole where
  | noNumber
  | noInteger
  | tooLong
  | fractional
  | infinite
  deriving DecidableEq, Repr

def NotWhole.kind : NotWhole → String
  | noNumber => "int_type"
  | noInteger => "int_parsing"
  | tooLong => "int_parsing_size"
  | fractional => "int_from_float"
  | infinite => "finite_number"

def dropZeroFraction (s : List Char) : List Char :=
  let (whole, fraction) := Text.cut '.' s
  match fraction with
  | none => s
  | some digits => if whole.isEmpty ∨ digits.any (· ≠ '0') then s else whole

def readDigits? (s : List Char) : Option Nat :=
  let groups := Text.splitAt '_' s
  if groups.any fun group => group.isEmpty || group.any fun c => !c.isDigit then none
  else some (groups.flatten.foldl (fun n c => 10 * n + (c.toNat - 0x30)) 0)

def readWhole? (s : List Char) : Option Int :=
  match dropZeroFraction (Text.trimChars s) with
  | '-' :: digits => (readDigits? digits).map fun n => -(n : Int)
  | '+' :: digits => (readDigits? digits).map fun n => (n : Int)
  | digits => (readDigits? digits).map fun n => (n : Int)

def textToWhole (s : List Char) : Except NotWhole Int :=
  if 4300 < s.length then .error .tooLong
  else match readWhole? s with
    | some n => .ok n
    | none => .error .noInteger

/-- The integer that a value stands for. Floating-point numbers have to fit in 64
bits. -/
def toWhole : Value → Except NotWhole Int
  | .int n => .ok n
  | .bool b => .ok (if b then 1 else 0)
  | .real x => match x.truncate? with
      | none => .error .infinite
      | some n =>
          if x.isFractional then .error .fractional
          else if n.natAbs < 2 ^ 63 then .ok n
          else .error .tooLong
  | .text s => textToWhole s.toList
  | .bytes false octets => textToWhole (octets.map fun octet => Char.ofNat octet.toNat)
  | .kept _ v => v.toWhole
  | _ => .error .noNumber

end RouteDocs.Value
