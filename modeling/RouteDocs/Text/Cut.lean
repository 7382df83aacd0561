/-! Cutting a text at a separator and replacing parts of it. -/

namespace RouteDocs.Text

/-- The text before the first `separator`, and the text after it if there is
one. -/
def cut (separator : Char) : List Char → List Char × Option (List Char)
  | [] => ([], none)
  | c :: rest =>
      if c = separator then ([], some rest)
      else
        let (head, tail) := cut separator rest
        (c :: head, tail)

/-- The pieces between separators; a text without one is a single piece. -/
def splitAt (separator : Char) : List Char → List (List Char)
  | [] => [[]]
  | c :: rest =>
      if c = separator then [] :: splitAt separator rest
      else match splitAt separator rest with
        | [] => [[c]]
        | piece :: pieces => (c :: piece) :: pieces

def split (separator : Char) (s : String) : List String :=
  (splitAt separator s.toList).map String.ofList

def dropStart? : (start s : List Char) → Option (List Char)
  | [], s => some s
  | _ :: _, [] => none
  | p :: start, c :: s => if p = c then dropStart? start s else none

theorem dropStart?_eq_some {start s rest : List Char} :
    dropStart? start s = some rest ↔ s = start ++ rest := by
  induction start generalizing s with
  | nil => simp [dropStart?, eq_comm]
  | cons p start ih =>
    cases s with
    | nil => simp [dropStart?]
    | cons c s =>
      by_cases h : p = c
      · simp [dropStart?, h, ih]
      · simp [dropStart?, h, Ne.symm h]

def startsWith (s start : List Char) : Bool :=
  (dropStart? start s).isSome

def endsWith (s stop : List Char) : Bool :=
  startsWith s.reverse stop.reverse

/-- The text without `stop` at its end, or the whole text. -/
def dropEnd (stop s : List Char) : List Char :=
  match dropStart? stop.reverse s.reverse with
  | some rest => rest.reverse
  | none => s

def occurs (part : List Char) : List Char → Bool
  | [] => part.isEmpty
  | c :: rest => startsWith (c :: rest) part || occurs part rest

/-- Every occurrence of `old`, read from the left and without overlap, replaced
by `new`. The number `skip` counts characters of an occurrence still to pass. -/
def replaceFrom (old new : List Char) : (skip : Nat) → List Char → List Char
  | _, [] => []
  | skip + 1, _ :: rest => replaceFrom old new skip rest
  | 0, c :: rest =>
      if startsWith (c :: rest) old then new ++ replaceFrom old new (old.length - 1) rest
      else c :: replaceFrom old new 0 rest

/-- For a non-empty `old`. -/
def replace (old new s : List Char) : List Char :=
  replaceFrom old new 0 s

/-- The text before the last occurrence of `separator` and the text after it. -/
def cutLast (separator : Char) (s : List Char) : Option (List Char × List Char) :=
  match cut separator s.reverse with
  | (_, none) => none
  | (tail, some head) => some (head.reverse, tail.reverse)

def join (separator : String) (parts : List String) : String :=
  String.intercalate separator parts

end RouteDocs.Text
