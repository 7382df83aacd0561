import RouteDocs.Fault
import RouteDocs.Field.Basic
import RouteDocs.Field.Sampler
import RouteDocs.Json.Quote
import RouteDocs.Rule.DateFormat
import RouteDocs.Text.Blank
import RouteDocs.Text.Case

/-!
What rules say about the field that they are written for. Date rules refer to a day, by a word or
by a date, and give an example near it.
-/

namespace RouteDocs.Rule

inductive Effect where
  | nothing
  | nullable
  | required
  /-- The field takes these values, and is required if so marked. -/
  | answers (required : Bool) (values : List Value)
  | filled
  | type (type : FieldType)
  | truth
  | image
  | extensions
  | date
  | specimen (format : Option String) (kind : Specimen)
  | json
  | textPattern (pattern : String)
  | characters (alphabet : List String)
  | size
  | between
  | lower (exclusive : Bool)
  | upper (exclusive : Bool)
  | multiple
  | digits
  | digitsBetween
  | minDigits
  | maxDigits
  | oneOf
  | startsWith
  | endsWith
  | pattern
  | otherPattern
  | nearDate (days : Int)
  | dateFormat
  deriving Repr, Inhabited

/-- The least natural number with so many digits; one digit includes zero. -/
def leastWithDigits (length : Int) : Int :=
  if 1 < length then Int.ofNat (Nat.pow 10 (length - 1).toNat) else 0

/-- The greatest natural number with so many digits. A negative length gives a
fraction below zero. -/
def greatestWithDigits (length : Int) : Except Fault Number :=
  if 0 ≤ length then .ok (.int (Int.ofNat (Nat.pow 10 length.toNat) - 1))
  else match Double.ofInt? length with
    | none => .error .integerTooLarge
    | some _ => .ok (.real (Double.sub (Double.ofDecimal false 1 length) (.ofDecimal false 1 0)))

def integerPart : Number → Except Fault Int
  | .int n => .ok n
  | .real .nan => .error .nanToInteger
  | .real (.infinity _) => .error .infinityToInteger
  | .real x => .ok (x.truncate?.getD 0)

def number? (parameters : List String) (place : Nat) : Option Number :=
  (parameters[place]?).bind Number.ofText?

/-- The pattern between its delimiters: `/^[a-z]+$/i` is `^[a-z]+$`. -/
def stripDelimiters (pattern : List Char) : List Char :=
  match pattern with
  | mark :: rest =>
      if mark = '/' ∨ mark = '#' ∨ mark = '~' then
        match Text.cutLast mark rest with
        | some (inner, _) => inner
        | none => pattern
      else pattern
  | [] => pattern

/-- Extensions are written small and without a point in front. -/
def extension (parameter : String) : String :=
  String.ofList ((Text.lowerChars parameter.toList).dropWhile (· = '.'))

def imageExtensions : List String :=
  ["jpeg", "png", "gif", "bmp", "svg", "webp"]

/-- Moves a date by whole days; dates end with the year 9999. -/
def shift (m : Moment) (days : Int) : Except Fault Moment :=
  match m.addDays? days with
  | some moved => .ok moved
  | none => .error .dateOutOfRange

/-- The date that a text stands for: one of four words, or a date and time in ISO
notation. Any other text names a field. -/
def referenceDate (text : String) (now : Moment) : Except Fault (Option Moment) :=
  let word := Text.lower (Text.trim text)
  if word == "now" then .ok (some now)
  else if word == "today" then .ok (some now.midnight)
  else if word == "tomorrow" then (shift now.midnight 1).map some
  else if word == "yesterday" then (shift now.midnight (-1)).map some
  else .ok (Iso.read? (Text.trim text))

/-- The form of example dates: `2024-01-31 08:05:00`. -/
def dateExample (m : Moment) : String :=
  String.ofList (m.formatChars "%Y-%m-%d %H:%M:%S".toList)

namespace Effect

def setMin (value : Number) (exclusive : Bool) (b : Bounds) : Bounds :=
  { b with min := some value, exclusiveMin := exclusive }

def setMax (value : Number) (exclusive : Bool) (b : Bounds) : Bounds :=
  { b with max := some value, exclusiveMax := exclusive }

def setOptional (set : Number → Bounds → Bounds) (value : Option Number) (b : Bounds) :
    Bounds :=
  match value with
  | none => b
  | some value => set value b

/-- A lower bound, if there is none or one below one, becomes one. -/
def fillBounds (b : Bounds) : Bounds :=
  match b.min with
  | none => { b with min := some (.int 1) }
  | some low =>
      if low.same (.int 0) || low.lt (.int 1) then { b with min := some (.int 1) } else b

/-- The bounds that a number of digits sets. The flags for exclusive bounds stay as
they are. -/
def setDigits (low high : Option Number) (b : Bounds) : Except Fault Bounds := do
  let b ← match low with
    | none => pure b
    | some low => do
        let length ← integerPart low
        pure { b with min := some (.int (leastWithDigits length)) }
  match high with
  | none => pure b
  | some high => do
      let length ← integerPart high
      let greatest ← greatestWithDigits length
      pure { b with max := some greatest }

def bounds (parameters : List String) (b : Bounds) : Effect → Except Fault Bounds
  | filled => .ok (fillBounds b)
  | size =>
      .ok (match number? parameters 0 with
        | none => b
        | some value => { b with min := some value, max := some value })
  | between =>
      .ok (setOptional (setMax · false) (number? parameters 1)
        (setOptional (setMin · false) (number? parameters 0) b))
  | lower exclusive => .ok (setOptional (setMin · exclusive) (number? parameters 0) b)
  | upper exclusive => .ok (setOptional (setMax · exclusive) (number? parameters 0) b)
  | digits => setDigits (number? parameters 0) (number? parameters 0) b
  | digitsBetween => setDigits (number? parameters 0) (number? parameters 1) b
  | minDigits => setDigits (number? parameters 0) none b
  | maxDigits => setDigits none (number? parameters 0) b
  | _ => .ok b

def typeAfter (type : Option FieldType) : Effect → Option FieldType
  | .type t => some t
  | truth => some .boolean
  | image => some .file
  | extensions => some .file
  | date => some .string
  | specimen .. => some .string
  | json => some .string
  | textPattern _ => some .string
  | characters _ => some .string
  | multiple => if type = some .integer then type else some .number
  | digits => some .integer
  | digitsBetween => some .integer
  | minDigits => some .integer
  | maxDigits => some .integer
  | pattern => some ((FieldType.named? type).getD .string)
  | otherPattern => some ((FieldType.named? type).getD .string)
  | nearDate _ => some .string
  | dateFormat => some .string
  | _ => type

def writtenSample (parameters : List String) (now : Moment) :
    Effect → Except Fault (Option String)
  | nearDate days => do
      match ← referenceDate (parameters.getD 0 "") now with
      | none => pure none
      | some day => pure (some (dateExample (← shift day days)))
  | dateFormat => .ok (some (DateFormat.render (parameters.getD 0 "") now))
  | _ => .ok none

def drawnSample? (sampler : Sampler) (draw : Int) : Effect → Option String
  | specimen _ kind => some (sampler.specimen kind draw)
  | json =>
      some ("\x7b\"name\": " ++ Json.quote true (sampler.specimen .personName draw) ++ "\x7d")
  | _ => none

def draws : Effect → Bool
  | specimen .. => true
  | json => true
  | _ => false

def describe (parameters : List String) (f : Field) : Effect → Field
  | nullable => { f with nullable := true }
  | required => { f with required := true }
  | answers needed values => { f with required := f.required || needed }.addLiterals values
  | truth => f.addLiterals [.bool true, .bool false, .int 0, .int 1, .text "0", .text "1"]
  | image => f.addFileExtensions imageExtensions
  | extensions => f.addFileExtensions (parameters.map extension)
  | date => { f with format := some "date-time" }
  | specimen (some format) _ => { f with format := some format }
  | textPattern form => { f with pattern := some form }
  | characters alphabet => f.addValidCharacters alphabet
  | oneOf => f.addLiterals (parameters.map .text)
  | startsWith => { f with startsWith := some (parameters.getD 0 "") }
  | endsWith => { f with endsWith := some (parameters.getD 0 "") }
  | pattern =>
      { f with pattern := some (String.ofList (stripDelimiters (parameters.getD 0 "").toList)) }
  | _ => f

def apply (effect : Effect) (sampler : Sampler) (now : Moment) (parameters : List String)
    (draw : Int) (f : Field) : Except Fault Field := do
  let bounds ← effect.bounds parameters f.bounds
  let written ← effect.writtenSample parameters now
  let sample := (effect.drawnSample? sampler draw).or written
  let f := effect.describe parameters { f with type := effect.typeAfter f.type, bounds }
  pure { f with sample := (sample.map Value.text).or f.sample }

end Effect
end RouteDocs.Rule
