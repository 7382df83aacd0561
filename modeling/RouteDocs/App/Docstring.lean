import RouteDocs.Text.Blank
import RouteDocs.Text.Cut
import RouteDocs.Text.Category

/-!
Docstrings of handlers and classes: a summary, further paragraphs, and the names of
errors, which stand in a section `Raises:` or in fields such as `:raises Gone:`.
-/

namespace RouteDocs

structure Docstring where
  summary : String := ""
  description : String := ""
  raises : List String := []
  deriving DecidableEq, Repr, Inhabited

namespace Docstring

/-- Tabs become spaces up to the next column that is a multiple of eight. -/
def expandTabs (column : Nat) : List Char → List Char
  | [] => []
  | c :: rest =>
      if c = '\t' then
        let width := 8 - column % 8
        List.replicate width ' ' ++ expandTabs 0 rest
      else c :: expandTabs (if c = '\n' ∨ c = '\r' then 0 else (column + 1) % 8) rest

def indent (line : List Char) : Nat :=
  (line.takeWhile Text.isBlank).length

def margin? (lines : List (List Char)) : Option Nat :=
  ((lines.filter fun line => !Text.isBlankText line).map indent).min?

def dropEmptyEnds (lines : List (List Char)) : List (List Char) :=
  ((lines.dropWhile List.isEmpty).reverse.dropWhile List.isEmpty).reverse

/-- The lines without the indentation that all lines behind the first share, and
without empty lines at both ends. -/
def cleanLines (text : List Char) : List (List Char) :=
  match Text.splitAt '\n' (expandTabs 0 text) with
  | [] => []
  | first :: rest =>
      dropEmptyEnds (Text.trimLeft first :: rest.map fun line => line.drop ((margin? rest).getD 0))

def clean (text : List Char) : List Char :=
  Text.joinWith ['\n'] (cleanLines text)

def sectionNames : List String :=
  ["Args", "Arguments", "Parameters", "Returns", "Return", "Yields", "Raises", "Note", "Notes",
   "Example", "Examples"]

/-- The section that a line opens. The line is not indented and holds nothing but a
name and a colon. -/
def sectionName? (line : List Char) : Option String :=
  if line.head? = some ' ' then none
  else sectionNames.find? fun name => Text.trimChars line == name.toList ++ [':']

structure Layout where
  head : List (List Char) := []
  raises : List (List Char) := []

def layoutFrom (current : Option String) : List (List Char) → Layout
  | [] => {}
  | line :: rest => match sectionName? line with
      | some name => layoutFrom (some name) rest
      | none =>
          let layout := layoutFrom current rest
          match current with
          | none => { layout with head := line :: layout.head }
          | some name =>
              if name = "Raises" then { layout with raises := line :: layout.raises } else layout

/-- The text behind the last line break of the white space at the start, if there is
one. -/
def afterBlankLines? : List Char → Option (List Char)
  | [] => none
  | c :: rest =>
      if Text.isBlank c then
        match afterBlankLines? rest with
        | some after => some after
        | none => if c = '\n' then some rest else none
      else none

theorem length_afterBlankLines {s after : List Char} (h : afterBlankLines? s = some after) :
    after.length < s.length := by
  induction s generalizing after with
  | nil => simp [afterBlankLines?] at h
  | cons c rest ih =>
    simp only [afterBlankLines?] at h
    split at h
    · split at h
      · rename_i found
        have shorter := ih found
        simp only [Option.some.injEq] at h
        subst h
        simp only [List.length_cons]
        omega
      · split at h
        · simp only [Option.some.injEq] at h
          subst h
          simp
        · simp at h
    · simp at h

/-- The paragraphs of a text, where `read` holds the characters of the paragraph
being read, last one first. Blank lines end a paragraph. -/
def paragraphsFrom (read : List Char) (text : List Char) : List (List Char) :=
  match text with
  | [] => [read.reverse]
  | c :: rest =>
      if c = '\n' then
        match _shorter : afterBlankLines? rest with
        | some after => read.reverse :: paragraphsFrom [] after
        | none => paragraphsFrom (c :: read) rest
      else paragraphsFrom (c :: read) rest
termination_by text.length
decreasing_by
  · have := length_afterBlankLines _shorter
    simp only [List.length_cons]
    omega
  · simp only [List.length_cons]
    omega
  · simp only [List.length_cons]
    omega

def paragraphs (text : List Char) : List (List Char) :=
  if text.isEmpty then [] else paragraphsFrom [] text

def isNameStart (c : Char) : Bool :=
  c.isAlpha || c = '_'

def isNamePart (c : Char) : Bool :=
  Text.isWord c || c = '.'

def entryName? (line : List Char) : Option String :=
  match line with
  | [] => none
  | c :: _ =>
      if isNameStart c then
        match Text.trimLeft (line.dropWhile isNamePart) with
        | [] => some (String.ofList (line.takeWhile isNamePart))
        | d :: _ => if d = ':' then some (String.ofList (line.takeWhile isNamePart)) else none
      else none

def addName (names : List String) (name : String) : List String :=
  if names.contains name then names else names ++ [name]

/-- The names in a section. Lines that are indented further than others go on with
the entry before. -/
def sectionRaises (lines : List (List Char)) : List String :=
  let base := (margin? lines).getD 0
  let entries := lines.filter fun line => !Text.isBlankText line && indent line ≤ base
  (entries.filterMap fun line => entryName? (Text.trimChars line)).foldl addName []

/-- The name in a field such as `:raises Gone:` at the start of a text, and the text
behind it. -/
def fieldName? (text : List Char) : Option (String × List Char) := do
  let rest ← Text.dropStart? ":raise".toList text
  let rest := (Text.dropStart? ['s'] rest).getD rest
  let start := Text.trimLeft rest
  if start.length = rest.length then none
  else
    let name := start.takeWhile isNamePart
    match name, Text.trimLeft (start.dropWhile isNamePart) with
    | [], _ => none
    | _, ':' :: after => some (String.ofList name, after)
    | _, _ => none

/-- The names in the fields of a text; a field opens a line. The number `skip`
counts the characters of a field still to pass. -/
def fieldNames (lineStart : Bool) : (skip : Nat) → List Char → List String
  | _, [] => []
  | skip + 1, _ :: rest => fieldNames false skip rest
  | 0, c :: rest =>
      if lineStart then
        match fieldName? (c :: rest) with
        | some (name, after) => name :: fieldNames false (rest.length - after.length) rest
        | none => fieldNames (c = '\n') 0 rest
      else fieldNames (c = '\n') 0 rest

/-- Lines of fields are no part of the text. -/
def isField (line : List Char) : Bool :=
  (Text.trimLeft line).head? = some ':'

def read (text : String) : Docstring :=
  if text.isEmpty then {}
  else
    let text := clean text.toList
    let layout := layoutFrom none (Text.lines text)
    let head := Text.trimChars
      (Text.joinWith ['\n'] (layout.head.filter fun line => !isField line))
    let raises := (fieldNames true 0 text).foldl addName (sectionRaises layout.raises)
    match paragraphs head with
    | [] => { raises }
    | first :: rest =>
        { summary := String.ofList (Text.squeezeChars first)
          description :=
            String.ofList (Text.joinWith ['\n', '\n'] (rest.map Text.trimChars))
          raises }

end Docstring
end RouteDocs
