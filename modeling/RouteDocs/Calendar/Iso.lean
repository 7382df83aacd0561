import RouteDocs.Calendar.Moment

/-! The ISO 8601 notation of dates and times. -/

namespace RouteDocs.Iso

def readDigits (value : Nat) : (count : Nat) → List Char → Option (Nat × List Char)
  | 0, s => some (value, s)
  | _ + 1, [] => none
  | count + 1, c :: rest =>
      if c.isDigit then readDigits (10 * value + (c.toNat - 0x30)) count rest else none

def skip? (c : Char) : List Char → Option (List Char)
  | d :: rest => if c = d then some rest else none
  | [] => none

def digitRun (s : List Char) : Nat :=
  (s.takeWhile Char.isDigit).length

/-- The number of characters of the date, told by the characters that stand at
fixed places: `2024-01-31`, `20240131`, `2024-W05`, `2024-W05-3`, `2024W05` or
`2024W053`. After `2024-W05` a hyphen and two digits are a time. -/
def dateLength (s : List Char) : Nat :=
  if s.length == 7 then 7
  else match s.drop 4 with
    | '-' :: 'W' :: rest =>
        match rest.drop 2 with
        | '-' :: _ :: d :: _ => if d.isDigit then 8 else 10
        | '-' :: _ => 10
        | _ => 8
    | '-' :: _ => 10
    | 'W' :: rest =>
        let stop := 7 + digitRun (rest.drop 2)
        if stop < 9 then stop else if stop % 2 == 0 then 7 else 8
    | _ => 8

/-- Week and day of a date such as `2024-W05-3`, behind the letter. Without a
day the week's Monday is meant. -/
def readWeek (year : Nat) (separated : Bool) (atEnd : List Char → Bool) (s : List Char) :
    Option Date := do
  let (week, rest) ← readDigits 0 2 s
  if atEnd rest then Date.ofWeek? year week 1
  else
    let rest ← if separated then skip? '-' rest else some rest
    let (day, _) ← readDigits 0 1 rest
    Date.ofWeek? year week day

def readDate (length : Nat) (s : List Char) : Option Date := do
  let total := s.length
  let (year, rest) ← readDigits 0 4 s
  let separated := rest.head? == some '-'
  let rest := if separated then rest.drop 1 else rest
  match rest with
  | 'W' :: rest => readWeek year separated (fun rest => length ≤ total - rest.length) rest
  | rest =>
      let (month, rest) ← readDigits 0 2 rest
      let rest ← if separated then skip? '-' rest else some rest
      let (day, _) ← readDigits 0 2 rest
      Date.of? year month day

structure Clock where
  hour : Nat := 0
  minute : Nat := 0
  second : Nat := 0
  microsecond : Nat := 0

/-- A fraction of a second of at most six digits; further digits are passed
over. The second part tells whether characters remain. -/
def readFraction (clock : Clock) (s after : List Char) : Option (Clock × Bool) := do
  let count := min s.length 6
  if count == 0 then none
  else
    let (value, rest) ← readDigits 0 count s
    let rest := (rest ++ after).dropWhile Char.isDigit
    some ({ clock with microsecond := value * Nat.pow 10 (6 - count) }, !rest.isEmpty)

/-- The parts of a time, of which `index` have been read. The text `after` stands
behind the time; the second part of the result tells whether characters remain
that are no part of it, such as a single ASCII character at the end. -/
def readParts (clock : Clock) (separated : Bool) (after : List Char) :
    (left : Nat) → List Char → Option (Clock × Bool)
  | 0, s => readFraction clock s after
  | left + 1, s => do
      let (value, rest) ← readDigits 0 2 s
      let clock := match left with
        | 2 => { clock with hour := value }
        | 1 => { clock with minute := value }
        | _ => { clock with second := value }
      match rest with
      | [] => some (clock, !after.isEmpty)
      | c :: rest' =>
          let separated := if left == 2 then c == ':' else separated
          if rest'.isEmpty && c.toNat < 128 then some (clock, true)
          else if separated && c == ':' then readParts clock separated after left rest'
          else if c == '.' || c == ',' then readFraction clock rest' after
          else if separated then none
          else readParts clock separated after left rest

def readClock (s after : List Char) : Option (Clock × Bool) :=
  readParts {} true after 3 s

/-- The time of day and, behind a sign or the letter `Z`, the distance from
UTC. A distance below one second counts as none. -/
def readTime (s : List Char) : Option (Clock × Option Int) := do
  let isMark (c : Char) := c == '+' || c == '-' || c == 'Z'
  let time := s.takeWhile fun c => !isMark c
  let zone := s.dropWhile fun c => !isMark c
  let (clock, more) ← readClock time zone
  match zone with
  | [] => if more then none else some (clock, none)
  | 'Z' :: rest => if rest.isEmpty then some (clock, some 0) else none
  | sign :: rest =>
      let (away, more) ← readClock rest []
      if more then none
      else
        let seconds : Int := away.hour * 3600 + away.minute * 60 + away.second
        let total := if seconds == 0 then 0 else seconds * 1000000 + away.microsecond
        some (clock, some (if sign == '-' then -total else total))

/-- Reads a date, and a time behind any one character. -/
def read? (text : String) : Option Moment := do
  let s := text.toList
  if s.length < 7 then none
  else
    let length := dateLength s
    let date ← readDate length s
    let rest := s.drop length
    if rest.isEmpty then some (.ofDate date)
    else do
      let (clock, offset) ← readTime (rest.drop 1)
      Moment.of? date clock.hour clock.minute clock.second clock.microsecond offset

def padded (width n : Nat) : List Char :=
  let digits := Nat.toDigits 10 n
  List.replicate (width - digits.length) '0' ++ digits

def writeFraction (microsecond : Nat) : List Char :=
  if microsecond == 0 then [] else '.' :: padded 6 microsecond

def writeOffset : Option Int → List Char
  | none => []
  | some offset =>
      let size := offset.natAbs
      let seconds := size / 1000000
      let tail := (if seconds % 60 == 0 && size % 1000000 == 0 then []
        else ':' :: padded 2 (seconds % 60)) ++ writeFraction (size % 1000000)
      (if offset < 0 then '-' else '+') ::
        (padded 2 (seconds / 3600) ++ ':' :: padded 2 (seconds / 60 % 60) ++ tail)

def write (m : Moment) : String :=
  String.ofList
    (padded 4 m.date.year ++ '-' :: padded 2 m.date.month ++ '-' :: padded 2 m.date.day ++
      'T' :: padded 2 m.hour ++ ':' :: padded 2 m.minute ++ ':' :: padded 2 m.second ++
      writeFraction m.microsecond ++ writeOffset m.offset)

end RouteDocs.Iso
