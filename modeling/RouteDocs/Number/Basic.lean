import RouteDocs.Number.Literal
import RouteDocs.Number.Shortest

/-! Numbers as rules write them: integers of any size, or floating-point. -/

namespace RouteDocs

inductive Number where
  | int (value : Int)
  | real (value : Double)
  deriving DecidableEq, Repr, Inhabited

namespace Number

/-- Reads an integer, or else a floating-point number. -/
def ofText? (s : String) : Option Number :=
  match Literal.readInt? s.toList with
  | some n => some (.int n)
  | none => (Literal.readDouble? s.toList).map .real

def compare? : Number → Number → Option Ordering
  | .int a, .int b => some (compare a b)
  | .real x, .int b => x.compareInt? b
  | .int a, .real y => (y.compareInt? a).map Ordering.swap
  | .real x, .real y => x.compare? y

/-- Less than; false where a nan is compared. -/
def lt (a b : Number) : Bool :=
  a.compare? b == some .lt

/-- Equality of values: an integer may equal a floating-point number. -/
def same (a b : Number) : Bool :=
  a.compare? b == some .eq

end Number
end RouteDocs
