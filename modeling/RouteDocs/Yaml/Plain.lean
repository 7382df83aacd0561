/-!
What YAML 1.1 takes an unquoted text for: a number, a truth value, a date and so on, or
else a text.
-/

namespace RouteDocs.Yaml

inductive Kind where
  | str
  | null
  | bool
  | int
  | float
  | timestamp
  | merge
  | value
  | marker
  | binary
  | sequence
  | mapping
  | set
  /-- A list of single entries, each with a key of its own. -/
  | orderedMapping
  | pairs
  | unknown
  deriving DecidableEq, Repr, Inhabited

namespace Plain

def isDigitOr_ (c : Char) : Bool :=
  c.isDigit || c = '_'

def isHexOr_ (c : Char) : Bool :=
  isDigitOr_ c || ('a' ≤ c && c ≤ 'f') || ('A' ≤ c && c ≤ 'F')

def unsigned (s : List Char) : List Char :=
  match s with
  | '-' :: rest => rest
  | '+' :: rest => rest
  | _ => s

/-- Groups of one digit or of two up to 59, each behind a colon; then the rest, and
whether there was a group. -/
def sexagesimal : (seen : Bool) → List Char → Bool × List Char
  | _, ':' :: a :: b :: rest =>
      if '0' ≤ a ∧ a ≤ '5' ∧ b.isDigit then sexagesimal true rest
      else if a.isDigit then sexagesimal true (b :: rest)
      else (false, ':' :: a :: b :: rest)
  | seen, [':', a] => if a.isDigit then (true, []) else (seen, [':', a])
  | seen, rest => (seen, rest)

def isBool (s : String) : Bool :=
  ["yes", "Yes", "YES", "no", "No", "NO", "true", "True", "TRUE", "false", "False", "FALSE",
   "on", "On", "ON", "off", "Off", "OFF"].contains s

def isNull (s : String) : Bool :=
  ["", "~", "null", "Null", "NULL"].contains s

def isInt (s : List Char) : Bool :=
  match unsigned s with
  | '0' :: 'b' :: digits => !digits.isEmpty && digits.all fun c => c = '0' || c = '1' || c = '_'
  | '0' :: 'x' :: digits => !digits.isEmpty && digits.all isHexOr_
  | '0' :: digits => digits.all fun c => ('0' ≤ c && c ≤ '7') || c = '_'
  | c :: rest =>
      c.isDigit && (rest.dropWhile isDigitOr_ == [] ||
        sexagesimal false (rest.dropWhile isDigitOr_) == (true, []))
  | [] => false

def isExponentEnd : List Char → Bool
  | [] => true
  | e :: sign :: digits =>
      (e = 'e' || e = 'E') && (sign = '+' || sign = '-') && !digits.isEmpty &&
        digits.all Char.isDigit
  | _ => false

def isFloat (s : List Char) : Bool :=
  let body := unsigned s
  let infinity := [".inf".toList, ".Inf".toList, ".INF".toList].contains body
  let nan := [".nan".toList, ".NaN".toList, ".NAN".toList].contains s
  infinity || nan ||
    match body with
    | '.' :: c :: rest =>
        body.length == s.length && c.isDigit && isExponentEnd (rest.dropWhile isDigitOr_)
    | c :: rest =>
        c.isDigit &&
          match rest.dropWhile isDigitOr_ with
          | '.' :: fraction => isExponentEnd (fraction.dropWhile isDigitOr_)
          | groups => match sexagesimal false groups with
              | (true, '.' :: fraction) => fraction.dropWhile isDigitOr_ == []
              | _ => false
    | [] => false

def digits? (least : Nat) : (most : Nat) → List Char → Option (List Char × List Char)
  | most, s =>
      let found := (s.takeWhile Char.isDigit).take most
      if found.length < least then none else some (found, s.drop found.length)

def char? (c : Char) : List Char → Option (List Char)
  | d :: rest => if c = d then some rest else none
  | [] => none

/-- The parts of a timestamp: year, month and day; then the clock, the digits of the
fraction, and the zone. -/
structure Timestamp where
  year : List Char
  month : List Char
  day : List Char
  hour : List Char := []
  minute : List Char := []
  second : List Char := []
  fraction : List Char := []
  zone : List Char := []
  deriving Repr

def isGap (c : Char) : Bool :=
  c = ' ' || c = '\t'

/-- A zone: `Z`, or a sign with hours and perhaps minutes. -/
def isZone : List Char → Bool
  | ['Z'] => true
  | c :: rest =>
      (c = '+' || c = '-') &&
        match digits? 1 2 rest with
        | some (_, []) => true
        | some (_, ':' :: minutes) => minutes.length == 2 && minutes.all Char.isDigit
        | _ => false
  | [] => false

def date? (least : Nat) (s : List Char) : Option Timestamp := do
  let (year, rest) ← digits? 4 4 s
  let (month, rest) ← digits? least 2 (← char? '-' rest)
  let (day, rest) ← digits? least 2 (← char? '-' rest)
  if rest.isEmpty then some { year, month, day } else none

def dateTime? (s : List Char) : Option Timestamp := do
  let (year, rest) ← digits? 4 4 s
  let (month, rest) ← digits? 1 2 (← char? '-' rest)
  let (day, rest) ← digits? 1 2 (← char? '-' rest)
  let rest ← match rest with
    | 'T' :: rest => some rest
    | 't' :: rest => some rest
    | ' ' :: rest => some (rest.dropWhile isGap)
    | '\t' :: rest => some (rest.dropWhile isGap)
    | _ => none
  let (hour, rest) ← digits? 1 2 rest
  let (minute, rest) ← digits? 2 2 (← char? ':' rest)
  let (second, rest) ← digits? 2 2 (← char? ':' rest)
  let (fraction, rest) := match rest with
    | '.' :: rest => (rest.takeWhile Char.isDigit, rest.dropWhile Char.isDigit)
    | rest => ([], rest)
  let zone := rest.dropWhile isGap
  if rest.isEmpty ∨ isZone zone then
    some { year, month, day, hour, minute, second, fraction, zone }
  else none

def timestamp? (s : List Char) : Option Timestamp :=
  (date? 2 s).or (dateTime? s)

def anyTimestamp? (s : List Char) : Option Timestamp :=
  (date? 1 s).or (dateTime? s)

end Plain

def plainKind (s : List Char) : Kind :=
  let text := String.ofList s
  if Plain.isBool text then .bool
  else if Plain.isFloat s then .float
  else if Plain.isInt s then .int
  else if text = "<<" then .merge
  else if Plain.isNull text then .null
  else if (Plain.timestamp? s).isSome then .timestamp
  else if text = "=" then .value
  else if text = "!" ∨ text = "&" ∨ text = "*" then .marker
  else .str

end RouteDocs.Yaml
