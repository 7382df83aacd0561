import RouteDocs.Calendar.Iso

/-! Writing dates and times by a format of `%` directives, with English names. -/

namespace RouteDocs.Moment

def weekdayNames : List String :=
  ["Monday", "Tuesday", "Wednesday", "Thursday", "Friday", "Saturday", "Sunday"]

def monthNames : List String :=
  ["January", "February", "March", "April", "May", "June", "July", "August", "September",
   "October", "November", "December"]

def weekdayName (m : Moment) : List Char :=
  (weekdayNames.getD m.date.weekday "").toList

def monthName (m : Moment) : List Char :=
  (monthNames.getD (m.date.month - 1) "").toList

def isAfternoon (m : Moment) : Bool :=
  12 ≤ m.hour

def hour12 (m : Moment) : Nat :=
  if m.hour % 12 == 0 then 12 else m.hour % 12

/-- The week of the year when weeks begin on the given day of the week (Sunday is
0); days before the first such day are in week 0. -/
def weekFrom (m : Moment) (start : Nat) : Nat :=
  let sundayBased := (m.date.weekday + 1) % 7
  (m.date.dayOfYear - 1 + 7 - (sundayBased + 7 - start) % 7) / 7

structure Flags where
  /-- `-` for no padding, `_` for blanks and `0` for zeros. -/
  pad : Option Char := none
  upperCase : Bool := false
  changeCase : Bool := false
  width : Nat := 0

inductive Piece where
  | nothing
  | number (digits : Nat) (value : Int) (blank : Bool)
  | name (text : List Char) (changed : List Char)
  | lowerName (text : List Char)
  | format (directives : List Char)

/-- The directives that number or name a part of the date and those that stand
for a longer format. -/
def piece? (m : Moment) : Char → Option Piece
  | 'a' => some (.name (m.weekdayName.take 3) (m.weekdayName.take 3 |>.map Char.toUpper))
  | 'A' => some (.name m.weekdayName (m.weekdayName.map Char.toUpper))
  | 'b' => some (.name (m.monthName.take 3) (m.monthName.take 3 |>.map Char.toUpper))
  | 'h' => some (.name (m.monthName.take 3) (m.monthName.take 3 |>.map Char.toUpper))
  | 'B' => some (.name m.monthName (m.monthName.map Char.toUpper))
  | 'p' => some (.name (if m.isAfternoon then ['P', 'M'] else ['A', 'M'])
      (if m.isAfternoon then ['p', 'm'] else ['a', 'm']))
  | 'P' => some (.lowerName (if m.isAfternoon then ['p', 'm'] else ['a', 'm']))
  | '%' => some (.name ['%'] ['%'])
  | 'n' => some (.name ['\n'] ['\n'])
  | 't' => some (.name ['\t'] ['\t'])
  | 'Z' => some (.name [] [])
  | 'z' => some .nothing
  | 'C' => some (.number 1 (m.date.year / 100) false)
  | 'd' => some (.number 2 m.date.day false)
  | 'e' => some (.number 2 m.date.day true)
  | 'g' => some (.number 2 (m.date.isoWeek.1 % 100) false)
  | 'G' => some (.number 1 m.date.isoWeek.1 false)
  | 'H' => some (.number 2 m.hour false)
  | 'I' => some (.number 2 m.hour12 false)
  | 'j' => some (.number 3 m.date.dayOfYear false)
  | 'k' => some (.number 2 m.hour true)
  | 'l' => some (.number 2 m.hour12 true)
  | 'm' => some (.number 2 m.date.month false)
  | 'M' => some (.number 2 m.minute false)
  | 's' =>
      let text := (toString m.epochSeconds).toList
      some (.name text text)
  | 'S' => some (.number 2 m.second false)
  | 'u' => some (.number 1 (m.date.weekday + 1) false)
  | 'U' => some (.number 2 (m.weekFrom 0) false)
  | 'V' => some (.number 2 m.date.isoWeek.2 false)
  | 'w' => some (.number 1 ((m.date.weekday + 1) % 7) false)
  | 'W' => some (.number 2 (m.weekFrom 1) false)
  | 'y' => some (.number 2 (m.date.year % 100) false)
  | 'Y' => some (.number 1 m.date.year false)
  | 'c' => some (.format "%a %b %e %H:%M:%S %Y".toList)
  | 'D' => some (.format "%m/%d/%y".toList)
  | 'x' => some (.format "%m/%d/%y".toList)
  | 'F' => some (.format "%Y-%m-%d".toList)
  | 'r' => some (.format "%I:%M:%S %p".toList)
  | 'R' => some (.format "%H:%M".toList)
  | 'T' => some (.format "%H:%M:%S".toList)
  | 'X' => some (.format "%H:%M:%S".toList)
  | _ => none

/-- Does a directive take the modifier `E` or `O`, which here mean nothing? -/
def takesModifier (modifier letter : Char) : Bool :=
  (if modifier == 'E' then "cnprstuxyzCPRTXYZ%" else "bdeghjklmnprstuwyzBCGHIMPRSTUVWZ%")
    |>.contains letter

def fill (flags : Flags) (text : List Char) : List Char :=
  if text.isEmpty && flags.pad == some '-' then []
  else
    List.replicate (flags.width - text.length) (if flags.pad == some '0' then '0' else ' ') ++
      text

def writeNumber (flags : Flags) (digits : Nat) (value : Int) (blank : Bool) : List Char :=
  let pad := if blank && flags.pad != some '0' && flags.pad != some '-' then some '_'
    else flags.pad
  let sign := if value < 0 then ['-'] else []
  let text := Nat.toDigits 10 value.natAbs
  let missing := max digits flags.width - (sign.length + text.length)
  if pad == some '-' then fill { flags with pad } (sign ++ text)
  else if pad == some '_' then List.replicate missing ' ' ++ sign ++ text
  else sign ++ List.replicate missing '0' ++ text

def writeUnknown (flags : Flags) (seen : List Char) : List Char :=
  fill flags (if flags.upperCase then seen.reverse.map Char.toUpper else seen.reverse)

/-- Directives of a longer format, which hold no further ones. -/
def writePlain (m : Moment) : List Char → List Char
  | '%' :: c :: rest =>
      (match m.piece? c with
        | some (.number digits value blank) => writeNumber {} digits value blank
        | some (.name text _) => text
        | some (.lowerName text) => text
        | _ => ['%', c]) ++ writePlain m rest
  | c :: rest => c :: writePlain m rest
  | [] => []

def writePiece (m : Moment) (flags : Flags) : Piece → List Char
  | .nothing => []
  | .number digits value blank => writeNumber flags digits value blank
  | .name text changed =>
      fill flags
        (if flags.changeCase then changed
          else if flags.upperCase then text.map Char.toUpper else text)
  | .lowerName text => fill flags text
  | .format directives =>
      let text := writePlain m directives
      fill flags (if flags.upperCase then text.map Char.toUpper else text)

structure Directive where
  seen : List Char := ['%']
  flags : Flags := {}
  hasWidth : Bool := false
  modifier : Option Char := none

inductive Reader where
  | text
  | directive (d : Directive)

/-- What a directive that a letter ends stands for, unless the letter is unknown or
does not take the modifier. -/
def Directive.piece? (m : Moment) (d : Directive) (letter : Char) : Option Piece :=
  if d.modifier.all (takesModifier · letter) then m.piece? letter else none

/-- Reads one character of a directive: a flag, a digit of the width, a modifier
or the letter that ends it. An unknown letter leaves the directive as written. -/
def readDirective (m : Moment) (d : Directive) (c : Char) : Reader × List Char :=
  let d' : Directive := { d with seen := c :: d.seen }
  let inFlags := !d.hasWidth && d.modifier.isNone
  if inFlags && (c == '_' || c == '-' || c == '0') then
    (.directive { d' with flags := { d.flags with pad := some c } }, [])
  else if inFlags && c == '^' then
    (.directive { d' with flags := { d.flags with upperCase := true } }, [])
  else if inFlags && c == '#' then
    (.directive { d' with flags := { d.flags with changeCase := true } }, [])
  else if d.modifier.isNone && c.isDigit then
    (.directive { d' with
      flags := { d.flags with width := 10 * d.flags.width + (c.toNat - 0x30) },
      hasWidth := true }, [])
  else if d.modifier.isNone && (c == 'E' || c == 'O') then
    (.directive { d' with modifier := some c }, [])
  else match d.piece? m c with
    | some piece => (.text, writePiece m d.flags piece)
    | none => (.text, writeUnknown d.flags d'.seen)

/-- Writes the rest of a format. A directive that the format breaks off is left
as written. -/
def writeFrom (m : Moment) : Reader → List Char → List Char
  | .text, [] => []
  | .directive d, [] => writeUnknown d.flags d.seen
  | .text, c :: rest =>
      if c == '%' then writeFrom m (.directive {}) rest else c :: writeFrom m .text rest
  | .directive d, c :: rest =>
      let (reader, written) := readDirective m d c
      written ++ writeFrom m reader rest

def zoneDistance (m : Moment) : List Char :=
  (Iso.writeOffset m.offset).filter (· ≠ ':')

/-- A fixed distance from UTC has no other name than the distance itself. -/
def zoneName (m : Moment) : List Char :=
  match m.offset with
  | none => []
  | some offset =>
      'U' :: 'T' :: 'C' :: (if offset == 0 then [] else Iso.writeOffset (some offset))

/-- Fills in the parts of a second and the time zone before anything else. -/
def fillFractions (m : Moment) : List Char → List Char
  | '%' :: c :: rest =>
      (match c with
        | 'f' => Iso.padded 6 m.microsecond
        | 'z' => m.zoneDistance
        | 'Z' => m.zoneName
        | _ => ['%', c]) ++ fillFractions m rest
  | c :: rest => c :: fillFractions m rest
  | [] => []

/-- The room for a text: 1024 characters, doubled until there are 256 for each
character of the format. -/
def room (formatLength : Nat) : Nat :=
  max 1024 (Nat.pow 2 ((256 * formatLength - 1).log2 + 1))

def writeChars (m : Moment) (format : List Char) : List Char :=
  writeFrom m .text (m.fillFractions (format.takeWhile (· ≠ '\x00')))

/-- Writes a date by a format that may ask for widths. A text that gets too long for
its room is left out. -/
def formatChars (m : Moment) (format : List Char) : List Char :=
  let text := m.writeChars format
  let length := (m.fillFractions (format.takeWhile (· ≠ '\x00'))).length
  if text.length < room length then text else []

end RouteDocs.Moment
