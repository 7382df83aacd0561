import RouteDocs.Number.Double

/-!
Sources of example data. A source is asked by the number of the draw, so that two
runs from one number see the same data.
-/

namespace RouteDocs

inductive Specimen where
  | personName
  | timezone
  | email
  | url
  | uuid
  /-- A text with every `?` replaced by a letter of the alphabet. -/
  | code (form alphabet : String)
  | ipv4
  | ipv6
  | macAddress
  | hexColor
  deriving DecidableEq, Repr

structure Sampler where
  specimen : Specimen → (draw : Int) → String
  fileName : (extension : String) → (draw : Int) → String
  integer : (low high : Int) → (draw : Int) → Int
  real : (low high : Double) → (draw : Int) → Double
  choose : (from_ : List String) → (count : Nat) → (draw : Int) → List String
  letters : (count : Nat) → (draw : Int) → String

/-- Where examples come from: data in the manner of a locale, and the number of the first draw
that a seed leads to. -/
structure Source where
  ofLocale : String → Sampler
  firstDraw : (seed : Option Int) → Int

namespace Sampler

def index (draw : Int) (count : Nat) : Nat :=
  (draw % count).toNat

def digits (base width n : Nat) : String :=
  let text := Nat.toDigits base n
  String.ofList (List.replicate (width - text.length) '0' ++ text)

/-- Replaces the `k`-th `?` by the letter `draw + k` of the alphabet, counted
around. -/
def fillForm (alphabet : List Char) (draw : Int) : List Char → List Char
  | [] => []
  | '?' :: rest =>
      alphabet.getD (index draw alphabet.length) '?' :: fillForm alphabet (draw + 1) rest
  | c :: rest => c :: fillForm alphabet draw rest

def countingSpecimen (locale : String) (draw : Int) : Specimen → String
  | .personName => "Zoë \"" ++ locale ++ "\" " ++ toString draw
  | .timezone => "Zone/" ++ toString draw
  | .email => "user" ++ toString draw ++ "@example.com"
  | .url => "https://example.com/" ++ toString draw
  | .uuid => "00000000-0000-4000-8000-" ++ digits 10 12 (index draw (Nat.pow 10 12))
  | .code form alphabet => String.ofList (fillForm alphabet.toList draw form.toList)
  | .ipv4 => "192.0.2." ++ toString (index draw 256)
  | .ipv6 => "2001:db8::" ++ digits 16 1 (index draw 65536)
  | .macAddress => "02:00:00:00:00:" ++ digits 16 2 (index draw 256)
  | .hexColor => "#" ++ digits 16 6 (index draw 16777216)

def rotate {α : Type} (items : List α) (draw : Int) (count : Nat) : List α :=
  (List.range count).filterMap fun i => items[index (draw + (i : Nat)) items.length]?

def alphabet : List Char := "abcdefghijklmnopqrstuvwxyz".toList

/-- One eighth of the distance for every draw, around. -/
def interpolate (low high : Double) (draw : Int) : Double :=
  Double.add low (Double.mul (Double.sub high low) (.round false (index draw 8) 8))

def counting (locale : String) : Sampler where
  specimen kind draw := countingSpecimen locale draw kind
  fileName extension draw := "file" ++ toString draw ++ "." ++ extension
  integer low high draw := low + draw % (high - low + 1)
  real := interpolate
  choose from_ count draw := rotate from_ draw count
  letters count draw := String.ofList (rotate alphabet draw count)

end Sampler

def Source.counting : Source :=
  { ofLocale := .counting, firstDraw := (·.getD 0) }

end RouteDocs
