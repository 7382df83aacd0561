import RouteDocs.Text.Cut
import RouteDocs.Text.Category
import RouteDocs.Value.Basic

/-! The text of a value: as it stands in a sentence, and quoted as a literal. -/

namespace RouteDocs.Value

def hexDigits (width n : Nat) : List Char :=
  let digits := Nat.toDigits 16 n
  List.replicate (width - digits.length) '0' ++ digits

def quoteChar (quote c : Char) : List Char :=
  let n := c.toNat
  if c == quote || c == '\\' then ['\\', c]
  else if c == '\n' then ['\\', 'n']
  else if c == '\r' then ['\\', 'r']
  else if c == '\t' then ['\\', 't']
  else if Text.isPrintable c then [c]
  else if n < 0x100 then '\\' :: 'x' :: hexDigits 2 n
  else if n < 0x10000 then '\\' :: 'u' :: hexDigits 4 n
  else '\\' :: 'U' :: hexDigits 8 n

def quoteMark (s : List Char) : Char :=
  if s.contains '\x27' && !s.contains '\x22' then '\x22' else '\x27'

def quoteText (s : List Char) : List Char :=
  let mark := quoteMark s
  mark :: (s.flatMap (quoteChar mark) ++ [mark])

def quoteOctets (octets : List UInt8) : List Char :=
  let chars := octets.map fun octet => Char.ofNat octet.toNat
  let mark := quoteMark chars
  let body := chars.flatMap fun c =>
    if 0x7f ≤ c.toNat then '\\' :: 'x' :: hexDigits 2 c.toNat else quoteChar mark c
  'b' :: mark :: (body ++ [mark])

def bracket (start stop : String) (parts : List (List Char)) : List Char :=
  start.toList ++ Text.joinWith [',', ' '] parts ++ stop.toList

def call (function : String) (arguments : List String) : String :=
  function ++ "(" ++ Text.join ", " arguments ++ ")"

/-- A length of time in microseconds as a literal: whole days, then what is left. -/
def durationLiteral (duration : Int) : String :=
  let part (name : String) (n : Int) : List String :=
    if n = 0 then [] else [name ++ "=" ++ toString n]
  let inDay := duration % 86400000000
  let parts := part "days" (duration / 86400000000) ++ part "seconds" (inDay / 1000000) ++
    part "microseconds" (inDay % 1000000)
  call "datetime.timedelta" (if parts.isEmpty then ["0"] else parts)

def zoneLiteral (offset : Int) : String :=
  if offset = 0 then "datetime.timezone.utc"
  else call "datetime.timezone" [durationLiteral offset]

def dateParts (d : Date) : List String :=
  [toString d.year, toString d.month, toString d.day]

/-- Seconds and microseconds are left out where they are zero. -/
def momentLiteral (m : Moment) : String :=
  let seconds :=
    if m.microsecond ≠ 0 then [toString m.second, toString m.microsecond]
    else if m.second ≠ 0 then [toString m.second]
    else []
  let zone := m.offset.toList.map fun offset => "tzinfo=" ++ zoneLiteral offset
  call "datetime.datetime"
    (dateParts m.date ++ [toString m.hour, toString m.minute] ++ seconds ++ zone)

mutual

def literalChars : Value → List Char
  | null => "None".toList
  | bool b => (if b then "True" else "False").toList
  | int n => (toString n).toList
  | real x => x.toText.toList
  | text s => quoteText s.toList
  | bytes false octets => quoteOctets octets
  | bytes true octets => "bytearray(".toList ++ quoteOctets octets ++ [')']
  | list items => bracket "[" "]" (literalItems items)
  | tuple items =>
      match items with
      | [item] => '(' :: (literalChars item ++ [',', ')'])
      | items => bracket "(" ")" (literalItems items)
  | range start stop => s!"range({start}, {stop})".toList
  | set items =>
      match items with
      | [] => "set()".toList
      | items => bracket "\x7b" "\x7d" (literalItems items)
  | map entries => bracket "\x7b" "\x7d" (literalEntries entries)
  | view entries => bracket "mappingproxy(\x7b" "\x7d)" (literalEntries entries)
  | date d => (call "datetime.date" (dateParts d)).toList
  | moment m => (momentLiteral m).toList
  | object name => ("<" ++ name ++ " object>").toList
  | rendering type => ("<" ++ type.module ++ "." ++ type.name ++ " object>").toList
  | kept _ value => literalChars value

def literalItems : List Value → List (List Char)
  | [] => []
  | item :: rest => literalChars item :: literalItems rest

def literalEntries : List (Value × Value) → List (List Char)
  | [] => []
  | (key, value) :: rest =>
      (literalChars key ++ [':', ' '] ++ literalChars value) :: literalEntries rest

end

def literal (v : Value) : String :=
  String.ofList v.literalChars

/-- The value in a sentence: a text is itself, all else is a literal. -/
def display : Value → String
  | text s => s
  | kept _ value => value.display
  | v => v.literal

end RouteDocs.Value
