import RouteDocs.Number.Literal
import RouteDocs.Text.Case
import RouteDocs.Yaml.Base64
import RouteDocs.Yaml.Cursor

/-! The values of scalars. -/

namespace RouteDocs.Yaml.ScalarValue

def fault {α : Type} (fault : Fault) : Except Problem α :=
  .error (.fault fault)

def truth? (text : String) : Option Bool :=
  if ["yes", "true", "on"].contains text then some true
  else if ["no", "false", "off"].contains text then some false
  else none

def bool (text : List Char) : Except Problem Value :=
  let lower := Text.lower (String.ofList text)
  match truth? lower with
  | some b => .ok (.bool b)
  | none => fault (.missingKey (Value.text lower).literal)

/-- The sign of a number, and the number without underscores. -/
def signed (text : List Char) : Except Problem (Bool × List Char) :=
  match text.filter (· ≠ '_') with
  | [] => fault .emptyNumeral
  | '-' :: rest => .ok (true, rest)
  | '+' :: rest => .ok (false, rest)
  | rest => .ok (false, rest)

def decimal (text : List Char) : Except Problem Int :=
  match Literal.readInt? text with
  | some n => .ok n
  | none =>
      let (_, count, rest) := Literal.readDigits (Literal.readSign (Literal.dropBlanks text)).2
      fault (if rest.isEmpty && Literal.digitLimit < count then .tooManyDigitsRead count
        else .noInteger 10 (String.ofList text))

/-- An integer in another base; a text of no digits is none. -/
def inBase (base : Nat) (digits : List Char) : Except Problem Int :=
  let isDigit (c : Char) : Bool := isHexDigit c && hexDigitValue c < base
  if digits.isEmpty || digits.any fun c => !isDigit c then
    fault (.noInteger base (String.ofList digits))
  else .ok (digits.foldl (fun n c => base * n + hexDigitValue c) 0 : Nat)

/-- Parts between colons, each worth sixty times the next one. -/
def sixties (text : List Char) : Except Problem Int :=
  (Text.splitAt ':' text).foldlM (fun sum part => do pure (60 * sum + (← decimal part))) 0

def integer (text : List Char) : Except Problem Value := do
  let (negative, digits) ← signed text
  let n ← match digits with
    | ['0'] => pure 0
    | '0' :: 'b' :: digits => inBase 2 digits
    | '0' :: 'x' :: digits => inBase 16 digits
    | '0' :: 'o' :: digits => inBase 8 digits
    | '0' :: rest => inBase 8 ('0' :: rest)
    | [] => fault .emptyNumeral
    | digits =>
        if digits.contains ':' then sixties digits
        else decimal digits
  pure (.int (if negative then -n else n))

def double (text : List Char) : Except Problem Double :=
  match Literal.readDouble? text with
  | some x => .ok x
  | none => fault (.noReal (String.ofList text))

/-- A sum of parts between colons, from the last one to the first, which is worth the
most. -/
def sumOfSixties (base : Int) (sum : Double) : List Double → Except Problem Double
  | [] => .ok sum
  | part :: rest => match Double.ofInt? base with
      | none => fault .integerTooLarge
      | some factor => sumOfSixties (60 * base) (sum.add (part.mul factor)) rest

def real (text : List Char) : Except Problem Value := do
  let (negative, digits) ← signed (Text.lower (String.ofList text)).toList
  let x ← match String.ofList digits with
    | ".inf" => pure (.infinity false)
    | ".nan" => pure .nan
    | _ =>
        if digits.contains ':' then do
          let parts ← (Text.splitAt ':' digits).mapM double
          sumOfSixties 1 Double.zero parts.reverse
        else double digits
  pure (.real (if negative then x.neg else x))

def octets (text : List Char) : Except Problem Value :=
  if text.any fun c => 0x7f < c.toNat then .error .markup
  else match Base64.decode? text with
    | some octets => .ok (.bytes false octets)
    | none => .error .markup

def natural (digits : List Char) : Nat :=
  digits.foldl (fun n c => 10 * n + (c.toNat - 0x30)) 0

def within (part : String) (least most n : Nat) : Except Problem Unit :=
  if least ≤ n ∧ n ≤ most then .ok () else fault (.partOutOfRange part least most)

def date (t : Plain.Timestamp) : Except Problem Date := do
  let year := natural t.year
  let month := natural t.month
  if year = 0 then fault (.yearOutOfRange year)
  within "month" 1 12 month
  match Date.of? year month (natural t.day) with
  | some d => pure d
  | none => fault .noSuchDay

def offset (zone : List Char) : Except Problem (Option Int) :=
  let minutes (text : List Char) : Int :=
    let (hours, minutes) := Text.cut ':' text
    60 * natural hours + natural (minutes.getD [])
  let checked (minutes : Int) : Except Problem (Option Int) :=
    let offset := minutes * 60000000
    if minutes.natAbs < 1440 then .ok (some offset) else fault (.offsetOutOfRange offset)
  match zone with
  | [] => .ok none
  | '+' :: rest => checked (minutes rest)
  | '-' :: rest => checked (-minutes rest)
  | _ => .ok (some 0)

def microseconds (fraction : List Char) : Nat :=
  natural ((fraction ++ List.replicate 6 '0').take 6)

def timestamp (text : List Char) : Except Problem Value := do
  match Plain.anyTimestamp? text with
  | none => fault (.noAttribute "NoneType" "groupdict")
  | some t =>
      if t.hour.isEmpty then pure (.date (← date t))
      else do
        let offset ← offset t.zone
        let d ← date t
        let hour := natural t.hour
        let minute := natural t.minute
        let second := natural t.second
        within "hour" 0 23 hour
        within "minute" 0 59 minute
        within "second" 0 59 second
        match Moment.of? d hour minute second (microseconds t.fraction) offset with
        | some m => pure (.moment m)
        | none => fault (.partOutOfRange "microsecond" 0 999999)

def read (kind : Kind) (text : List Char) : Except Problem Value :=
  match kind with
  | .str => .ok (.text (String.ofList text))
  | .null => .ok .null
  | .bool => bool text
  | .int => integer text
  | .float => real text
  | .timestamp => timestamp text
  | .binary => octets text
  | _ => .error .markup

end RouteDocs.Yaml.ScalarValue
