import RouteDocs.Calendar.Format

/-!
Date formats of one letter for each part of a date, such as `d/m/Y`. A backslash
keeps the character behind it; characters without a meaning stand for themselves.
-/

namespace RouteDocs.Rule.DateFormat

def directive? : Char → Option String
  | 'd' => some "%d"
  | 'D' => some "%a"
  | 'j' => some "%-d"
  | 'l' => some "%A"
  | 'N' => some "%u"
  | 'w' => some "%w"
  | 'z' => some "%j"
  | 'W' => some "%V"
  | 'F' => some "%B"
  | 'm' => some "%m"
  | 'M' => some "%b"
  | 'n' => some "%-m"
  | 'o' => some "%G"
  | 'Y' => some "%Y"
  | 'y' => some "%y"
  | 'a' => some "%p"
  | 'A' => some "%p"
  | 'g' => some "%-I"
  | 'G' => some "%-H"
  | 'h' => some "%I"
  | 'H' => some "%H"
  | 'i' => some "%M"
  | 's' => some "%S"
  | 'u' => some "%f"
  | 'e' => some "%Z"
  | 'T' => some "%Z"
  | 'O' => some "%z"
  | 'P' => some "%z"
  | 'U' => some "%s"
  | _ => none

/-- The directives for the letters of a format. A backslash at the end is left
out. -/
def directives : List Char → List Char
  | '\\' :: c :: rest => c :: directives rest
  | ['\\'] => []
  | c :: rest =>
      (match directive? c with
        | some text => text.toList
        | none => [c]) ++ directives rest
  | [] => []

/-- A format that has directives already stays as it is. -/
def translateChars (format : List Char) : List Char :=
  if format.contains '%' then format else directives format

def translate (format : String) : String :=
  String.ofList (translateChars format.toList)

def renderChars (format : List Char) (now : Moment) : List Char :=
  now.formatChars (translateChars format)

def render (format : String) (now : Moment) : String :=
  String.ofList (renderChars format.toList now)

end RouteDocs.Rule.DateFormat
