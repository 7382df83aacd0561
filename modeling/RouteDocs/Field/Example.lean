import RouteDocs.Fault
import RouteDocs.Field.Basic
import RouteDocs.Field.Sampler
import RouteDocs.Rule.Effect

/-! Examples for fields whose rules gave none. -/

namespace RouteDocs.Field

def defaultLength : Int := 8

/-- A number moved by an integer that is small enough to be a floating-point
number. -/
def shiftNumber (x : Number) (by_ : Int) : Number :=
  match x with
  | .int n => .int (n + by_)
  | .real x => .real (x.add ((Double.ofInt? by_).getD .zero))

def toDouble : Number → Except Fault Double
  | .int n => match Double.ofInt? n with
      | some x => .ok x
      | none => .error .integerTooLarge
  | .real x => .ok x

/-- The range that numeric examples come from. Without an upper bound it reaches
a hundred beyond the lower one, or beyond zero. -/
def exampleRange (b : Bounds) : Number × Number :=
  let low := b.min.getD (.int 0)
  let high := b.max.getD
    (shiftNumber (if low.lt (.int 0) then .int 0 else low) 100)
  let low := if b.exclusiveMin then shiftNumber low 1 else low
  let high := if b.exclusiveMax then shiftNumber high (-1) else high
  (low, if high.lt low then low else high)

inductive Guess where
  | written (value : Value)
  | drawn (value : Int → Value)

def integerGuess (s : Sampler) (b : Bounds) : Except Fault Guess := do
  let (low, high) := exampleRange b
  let low ← Rule.integerPart low
  let high ← Rule.integerPart high
  pure (.drawn fun draw => .int (s.integer low high draw))

/-- A number with two decimal places between the bounds, or the only one that
there is. -/
def numberGuess (s : Sampler) (b : Bounds) : Except Fault Guess := do
  let (low, high) := exampleRange b
  if low.lt high then
    let low ← toDouble low
    let high ← toDouble high
    pure (.drawn fun draw => .real ((s.real low high draw).roundPlaces 2))
  else
    pure (.written (.real (← toDouble low)))

/-- The number of characters between the given start and end. -/
def bodyLength (f : Field) : Except Fault Nat := do
  let length ← match f.bounds.min with
    | none => pure defaultLength
    | some low => do pure (max defaultLength (← Rule.integerPart low))
  let length ← match f.bounds.max with
    | none => pure length
    | some high => do pure (min length (← Rule.integerPart high))
  pure (length - (f.startsWith.getD "").length - (f.endsWith.getD "").length).toNat

/-- Missing characters take the place of the first ones of the body. -/
def insertRequired (required : List String) (body : List Char) : List Char :=
  let missing := required.filter fun c => !Text.occurs c.toList body
  if missing.isEmpty then body
  else missing.flatMap String.toList ++ body.drop missing.length

def textAround (f : Field) (body : List Char) : Value :=
  .text (f.startsWith.getD "" ++ String.ofList (insertRequired f.requiredCharacters body) ++
    f.endsWith.getD "")

def textGuess (s : Sampler) (f : Field) : Except Fault Guess := do
  let length ← bodyLength f
  if length = 0 then pure (.written (textAround f []))
  else if f.validCharacters.isEmpty then
    pure (.drawn fun draw => textAround f (s.letters length draw).toList)
  else
    pure (.drawn fun draw =>
      textAround f ((s.choose f.validCharacters length draw).flatMap String.toList))

/-- An example by the type and the hints of the rules; the first literal if there
are some. -/
def guess (s : Sampler) (f : Field) : Except Fault Guess :=
  match f.literals with
  | some (literal :: _) => .ok (.written literal)
  | _ => match f.resolvedType with
      | .boolean => .ok (.written (.bool true))
      | .integer => integerGuess s f.bounds
      | .number => numberGuess s f.bounds
      | .array => .ok (.written (.list []))
      | .object => .ok (.written (.map []))
      | .file =>
          let extension := ((f.fileExtensions.getD []).head?).getD "txt"
          .ok (.drawn fun draw => .text (s.fileName extension draw))
      | _ => textGuess s f

theorem guess_of_free {f : Field} (free : f.literals.getD [] = []) (s : Sampler) :
    f.guess s = match f.resolvedType with
      | .boolean => .ok (.written (.bool true))
      | .integer => integerGuess s f.bounds
      | .number => numberGuess s f.bounds
      | .array => .ok (.written (.list []))
      | .object => .ok (.written (.map []))
      | .file => .ok (.drawn fun draw =>
          .text (s.fileName (((f.fileExtensions.getD []).head?).getD "txt") draw))
      | _ => textGuess s f := by
  unfold guess
  split
  · rename_i given
    simp [given] at free
  · rfl

/-- A null is no example. -/
def sampleOf : Value → Option Value
  | .null => none
  | value => some value

/-- Adds an example if the field has none, and tells the number of the next
draw. -/
def enrich (s : Sampler) (f : Field) (draw : Int) : Except Fault (Field × Int) :=
  match f.sample with
  | some _ => .ok (f, draw)
  | none => do
      match ← guess s f with
      | .written value => pure ({ f with sample := sampleOf value }, draw)
      | .drawn value => pure ({ f with sample := sampleOf (value draw) }, draw + 1)

end RouteDocs.Field
