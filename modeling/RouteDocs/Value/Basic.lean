import RouteDocs.Calendar.Moment
import RouteDocs.Keyed
import RouteDocs.Number.Basic

/-! Values of a host application: sample data, examples and literals. -/

namespace RouteDocs

structure ClassName where
  module : String
  name : String
  deriving DecidableEq, Repr, Inhabited

/-- Tells two containers apart that are equal but not one and the same. -/
inductive Mark where
  /-- The container was written down in the application, as its `serial`-th. -/
  | literal (serial : Nat)
  /-- The container was made as the example of a field: the `field`-th of the
  body or the query parameters of the `route`-th route. -/
  | example (route : Nat) (inBody : Bool) (field : Nat)
  deriving DecidableEq, Repr

inductive Value where
  | null
  | bool (value : Bool)
  | int (value : Int)
  | real (value : Double)
  | text (value : String)
  | bytes (isBuffer : Bool) (octets : List UInt8)
  | list (items : List Value)
  | tuple (items : List Value)
  /-- The integers from `start` to below `stop`. -/
  | range (start stop : Int)
  | set (items : List Value)
  | map (entries : List (Value × Value))
  | view (entries : List (Value × Value))
  | date (value : Date)
  | moment (value : Moment)
  /-- An object of a class that says nothing about itself. -/
  | object (typeName : String)
  /-- A resource or a resource collection; only its class matters. -/
  | rendering (type : ClassName)
  | kept (mark : Mark) (value : Value)
  deriving Repr, Inhabited

namespace Value

def bare : Value → Value
  | kept _ value => bare value
  | value => value

/-- The name of the value's type in the host language. -/
def typeName : Value → String
  | null => "NoneType"
  | bool _ => "bool"
  | int _ => "int"
  | real _ => "float"
  | text _ => "str"
  | bytes false _ => "bytes"
  | bytes true _ => "bytearray"
  | list _ => "list"
  | tuple _ => "tuple"
  | range .. => "range"
  | set _ => "set"
  | map _ => "dict"
  | view _ => "mappingproxy"
  | date _ => "date"
  | moment _ => "datetime"
  | object name => name
  | rendering type => type.name
  | kept _ value => value.typeName

def rangeItems (start stop : Int) : List Int :=
  (List.range (stop - start).toNat).map fun (i : Nat) => start + i

/-- Is there something in the value: a number other than zero, a non-empty text
or container? -/
def isTruthy : Value → Bool
  | null => false
  | bool b => b
  | int n => n != 0
  | real x => x.compareInt? 0 != some .eq
  | text s => !s.isEmpty
  | bytes _ octets => !octets.isEmpty
  | list items => !items.isEmpty
  | tuple items => !items.isEmpty
  | range start stop => start < stop
  | set items => !items.isEmpty
  | map entries => !entries.isEmpty
  | view entries => !entries.isEmpty
  | date _ => true
  | moment _ => true
  | object _ => true
  | rendering _ => true
  | kept _ value => value.isTruthy

def ofNumber : Number → Value
  | .int n => .int n
  | .real x => .real x

def number? : Value → Option Number
  | bool b => some (.int (if b then 1 else 0))
  | int n => some (.int n)
  | real x => some (.real x)
  | _ => none

mutual

/-- Equality of values: truth values equal the numbers 1 and 0, an integer may
equal a floating-point number, and mappings are equal whatever their order.
Objects differ from one another. -/
def same : Value → Value → Bool
  | kept _ a, b => same a b
  | .null, b => match b.bare with | .null => true | _ => false
  | .text s, b => match b.bare with | .text t => s == t | _ => false
  | .bytes _ xs, b => match b.bare with | .bytes _ ys => xs == ys | _ => false
  | .list xs, b => match b.bare with | .list ys => sameItems xs ys | _ => false
  | .tuple xs, b => match b.bare with | .tuple ys => sameItems xs ys | _ => false
  | .range a b, c => match c.bare with
      | .range d e => rangeItems a b == rangeItems d e
      | _ => false
  | .set xs, b => match b.bare with
      | .set ys => xs.length == ys.length && subset xs ys
      | _ => false
  | .map xs, b => match b.bare with
      | .map ys => xs.length == ys.length && agrees xs ys
      | .view ys => xs.length == ys.length && agrees xs ys
      | _ => false
  | .view xs, b => match b.bare with
      | .map ys => xs.length == ys.length && agrees xs ys
      | .view ys => xs.length == ys.length && agrees xs ys
      | _ => false
  | .date d, b => match b.bare with | .date e => d == e | _ => false
  | .moment m, b => match b.bare with | .moment n => m == n | _ => false
  | .object _, _ => false
  | .rendering _, _ => false
  | a, b => match a.number?, b.bare.number? with
      | some x, some y => x.same y
      | _, _ => false

def sameItems : List Value → List Value → Bool
  | [], [] => true
  | x :: xs, y :: ys => same x y && sameItems xs ys
  | _, _ => false

def subset : List Value → List Value → Bool
  | [], _ => true
  | x :: xs, ys => ys.any (same x) && subset xs ys

def agrees : List (Value × Value) → List (Value × Value) → Bool
  | [], _ => true
  | (k, v) :: rest, ys => ys.any (fun entry => same k entry.1 && same v entry.2) && agrees rest ys

end

mutual

def unhashable? : Value → Option String
  | .list _ => some "list"
  | .set _ => some "set"
  | .map _ => some "dict"
  | .view _ => some "mappingproxy"
  | .bytes true _ => some "bytearray"
  | .tuple items => unhashableItem? items
  | .kept _ v => unhashable? v
  | _ => none

def unhashableItem? : List Value → Option String
  | [] => none
  | item :: rest => (unhashable? item).or (unhashableItem? rest)

end

/-- Equal values of one type; the truth value, the number and the text of one
differ. -/
def sameLiteral (a b : Value) : Bool :=
  a.typeName == b.typeName && same a b

def ofEntries (entries : List (Value × Value)) : List (Value × Value) :=
  entries.foldl (fun made entry => Keyed.putBy same entry.1 entry.2 made) []

end Value
end RouteDocs
