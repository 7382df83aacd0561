import RouteDocs.Json.Print
import RouteDocs.Yaml.Base64
import RouteDocs.Yaml.Scalar

/-!
Values as YAML text: mappings and lists as blocks, scalars as bare as can be, and lines
folded once they pass eighty columns. A container that occurs twice is written once,
with an anchor, and referred to afterwards.
-/

namespace RouteDocs.Yaml

structure ScalarText where
  kind : Kind
  text : List Char
  deriving Repr

inductive Tree where
  | scalar (scalar : ScalarText)
  | sequence (mark : Option Mark) (items : List Tree)
  | mapping (mark : Option Mark) (isSet : Bool) (entries : List (Tree × Tree))
  deriving Repr, Inhabited

/-- A number as it is written: exponents need a fraction before them. -/
def realText : Double → String
  | .nan => ".nan"
  | .infinity negative => if negative then "-.inf" else ".inf"
  | x =>
      let text := x.toText.toList
      if text.contains '.' then String.ofList text
      else String.ofList (text.flatMap fun c => if c = 'e' then ['.', '0', 'e'] else [c])

def scalarOf (kind : Kind) (text : String) : Tree :=
  .scalar { kind, text := text.toList }

mutual

/-- The tree of a value. Objects and read-only mappings have none. -/
def treeOf (mark : Option Mark) : Value → Except Fault Tree
  | .null => .ok (scalarOf .null "null")
  | .bool b => .ok (scalarOf .bool (Json.boolText b))
  | .int n => (Json.integerText n).map (scalarOf .int)
  | .real x => .ok (scalarOf .float (realText x))
  | .text s => .ok (scalarOf .str s)
  | .bytes false octets => .ok (.scalar { kind := .binary, text := Base64.encodeLines octets })
  | .list items => (treesOf items).map (.sequence mark)
  | .tuple items => (treesOf items).map (.sequence mark)
  | .map entries => (entryTreesOf entries).map (.mapping mark false)
  | .set items => (treesOf items).map fun trees =>
      .mapping mark true (trees.map fun tree => (tree, scalarOf .null "null"))
  | .kept mark value => treeOf (some mark) value
  | _ => .error .unrepresentable

def treesOf : List Value → Except Fault (List Tree)
  | [] => .ok []
  | item :: rest => do
      let tree ← treeOf none item
      pure (tree :: (← treesOf rest))

def entryTreesOf : List (Value × Value) → Except Fault (List (Tree × Tree))
  | [] => .ok []
  | (key, value) :: rest => do
      let key ← treeOf none key
      let value ← treeOf none value
      pure ((key, value) :: (← entryTreesOf rest))

end

structure Sightings where
  seen : List Mark := []
  again : List Mark := []

namespace Sightings

def note (s : Sightings) (mark : Mark) : Sightings × Bool :=
  if s.seen.contains mark then
    (if s.again.contains mark then s else { s with again := s.again ++ [mark] }, false)
  else ({ s with seen := mark :: s.seen }, true)

mutual

/-- Notes the containers of a tree; one that is met again is not entered. -/
def visit (s : Sightings) : Tree → Sightings
  | .scalar _ => s
  | .sequence mark items =>
      match mark with
      | none => visitAll s items
      | some mark =>
          let (s, new) := s.note mark
          if new then visitAll s items else s
  | .mapping mark _ entries =>
      match mark with
      | none => visitEntries s entries
      | some mark =>
          let (s, new) := s.note mark
          if new then visitEntries s entries else s

def visitAll (s : Sightings) : List Tree → Sightings
  | [] => s
  | tree :: rest => visitAll (visit s tree) rest

def visitEntries (s : Sightings) : List (Tree × Tree) → Sightings
  | [] => s
  | (key, value) :: rest => visitEntries (visit (visit s key) value) rest

end

end Sightings

structure Page where
  written : List Char := []
  column : Nat := 0
  /-- White space, or nothing, stands before. -/
  afterSpace : Bool := true
  /-- Nothing but indentation and indicators stand in the line. -/
  inIndent : Bool := true
  done : List Mark := []

namespace Page

def width : Nat := 80

def write (p : Page) (s : List Char) : Page :=
  { p with written := s.reverse ++ p.written, column := p.column + s.length }

def breakLine (p : Page) (c : Char) : Page :=
  { p with written := c :: p.written, column := 0, afterSpace := true, inIndent := true }

def indicator (p : Page) (s : List Char) (spaced : Bool) (space indent : Bool) : Page :=
  let p := if p.afterSpace || !spaced then p.write s else p.write (' ' :: s)
  { p with afterSpace := space, inIndent := p.inIndent && indent }

def indentTo (p : Page) (indent : Nat) : Page :=
  let p := if !p.inIndent || indent < p.column || (p.column = indent && !p.afterSpace)
    then p.breakLine '\n' else p
  if p.column < indent then
    { p.write (List.replicate (indent - p.column) ' ') with afterSpace := true }
  else p

/-- Breaks inside a text: one more than there are if the first is a line feed. -/
def writeBreaks (p : Page) (breaks : List Char) : Page :=
  let p := if breaks.head? = some '\n' then p.breakLine '\n' else p
  breaks.foldl breakLine p

end Page

inductive Stretch where
  | word (s : List Char)
  | spaces (s : List Char)
  | breaks (s : List Char)

def Stretch.ofChar (c : Char) : Stretch :=
  if c = ' ' then .spaces [c] else if isBreak c then .breaks [c] else .word [c]

def consStretch (c : Char) (stretches : List Stretch) : List Stretch :=
  match Stretch.ofChar c, stretches with
  | .word _, .word s :: rest => .word (c :: s) :: rest
  | .spaces _, .spaces s :: rest => .spaces (c :: s) :: rest
  | .breaks _, .breaks s :: rest => .breaks (c :: s) :: rest
  | stretch, rest => stretch :: rest

def stretches (s : List Char) : List Stretch :=
  s.foldr consStretch []

/-- Where a bare text is folded, the line goes on at the indentation: at a single
space behind the width. -/
def writePlainStretches (fold : Bool) (indent : Nat) : Page → List Stretch → Page
  | p, [] => p
  | p, .word s :: rest => writePlainStretches fold indent (p.write s) rest
  | p, .spaces s :: rest =>
      if s.length = 1 ∧ Page.width < p.column ∧ fold then
        writePlainStretches fold indent
          { p.indentTo indent with afterSpace := false, inIndent := false } rest
      else writePlainStretches fold indent (p.write s) rest
  | p, .breaks s :: rest =>
      writePlainStretches fold indent
        { (p.writeBreaks s).indentTo indent with afterSpace := false, inIndent := false } rest

def writePlain (p : Page) (fold : Bool) (indent : Nat) (s : List Char) : Page :=
  if s.isEmpty then p
  else
    let p := if p.afterSpace then p else p.write [' ']
    writePlainStretches fold indent { p with afterSpace := false, inIndent := false } (stretches s)

def doubleQuotes (s : List Char) : List Char :=
  s.flatMap fun c => if c = '\x27' then ['\x27', '\x27'] else [c]

/-- Spaces at either end are never folded. -/
def writeSingleStretches (fold : Bool) (indent : Nat) (first : Bool) : Page → List Stretch → Page
  | p, [] => p
  | p, .word s :: rest => writeSingleStretches fold indent false (p.write (doubleQuotes s)) rest
  | p, .spaces s :: rest =>
      if s.length = 1 ∧ Page.width < p.column ∧ fold ∧ !first ∧ !rest.isEmpty then
        writeSingleStretches fold indent false (p.indentTo indent) rest
      else writeSingleStretches fold indent false (p.write s) rest
  | p, .breaks s :: rest =>
      writeSingleStretches fold indent false ((p.writeBreaks s).indentTo indent) rest

def writeSingle (p : Page) (fold : Bool) (indent : Nat) (s : List Char) : Page :=
  let p := p.indicator ['\x27'] true false false
  (writeSingleStretches fold indent true p (stretches s)).indicator ['\x27'] false false false

def isBare (c : Char) : Bool :=
  let n := c.toNat
  c ≠ '\x22' && c ≠ '\\' && n ≠ 0x2028 && n ≠ 0x2029 && n ≠ 0xfeff &&
    ((0x20 ≤ n && n ≤ 0x7e) || (0xa0 ≤ n && n ≤ 0xd7ff) || (0xe000 ≤ n && n ≤ 0xfffd))

def escapeLetter? (c : Char) : Option Char :=
  match c.toNat with
  | 0x00 => some '0'
  | 0x07 => some 'a'
  | 0x08 => some 'b'
  | 0x09 => some 't'
  | 0x0a => some 'n'
  | 0x0b => some 'v'
  | 0x0c => some 'f'
  | 0x0d => some 'r'
  | 0x1b => some 'e'
  | 0x22 => some '\x22'
  | 0x5c => some '\\'
  | 0x85 => some 'N'
  | 0xa0 => some '_'
  | 0x2028 => some 'L'
  | 0x2029 => some 'P'
  | _ => none

def upperHex (width n : Nat) : List Char :=
  let digits := (Nat.toDigits 16 n).map Char.toUpper
  List.replicate (width - digits.length) '0' ++ digits

def escape (c : Char) : List Char :=
  let n := c.toNat
  match escapeLetter? c with
  | some letter => ['\\', letter]
  | none =>
      if n ≤ 0xff then '\\' :: 'x' :: upperHex 2 n
      else if n ≤ 0xffff then '\\' :: 'u' :: upperHex 4 n
      else '\\' :: 'U' :: upperHex 8 n

/-- Breaks a line inside double quotes: a backslash ends it, and a space that begins the
next one is escaped. -/
def foldDouble (p : Page) (indent : Nat) (next : Option Char) : Page :=
  let p := { (p.write ['\\']).indentTo indent with afterSpace := false, inIndent := false }
  if next = some ' ' then p.write ['\\'] else p

/-- The characters of a text in double quotes. The characters in `waiting`, the last one
first, are still to be written; `index` counts the characters before. A line that is
full is broken before a space and next to an escape. -/
def writeDoubleFrom (fold : Bool) (indent total : Nat) (waiting : List Char) (index : Nat) :
    Page → List Char → Page
  | p, [] => p.write waiting.reverse
  | p, c :: rest =>
      let inside := fold && 0 < index && index + 1 < total
      if isBare c then
        if inside && (c = ' ' || waiting.isEmpty) && Page.width < p.column + waiting.length then
          writeDoubleFrom fold indent total [c] (index + 1)
            (foldDouble (p.write waiting.reverse) indent (some c)) rest
        else writeDoubleFrom fold indent total (c :: waiting) (index + 1) p rest
      else
        let p := (p.write waiting.reverse).write (escape c)
        let p := if inside && Page.width + 1 < p.column then foldDouble p indent rest.head? else p
        writeDoubleFrom fold indent total [] (index + 1) p rest

def writeDouble (p : Page) (fold : Bool) (indent : Nat) (s : List Char) : Page :=
  let p := p.indicator ['\x22'] true false false
  (writeDoubleFrom fold indent s.length [] 0 p s).indicator ['\x22'] false false false

def writeLiteral (p : Page) (indent : Nat) (s : List Char) : Page :=
  let lines := (Text.splitAt '\n' s).filter fun line => !line.isEmpty
  lines.foldl (fun p line => ((p.indentTo indent).write line).breakLine '\n')
    ((p.indicator ['|'] true false false).breakLine '\n')

def deeper (indent : Option Nat) (indentless : Bool) : Nat :=
  match indent with
  | none => 0
  | some n => if indentless then n else n + 2

def scalarIndent (indent : Option Nat) : Nat :=
  match indent with
  | none => 2
  | some n => n + 2

def kindTag : Kind → List Char
  | .str => "!!str".toList
  | .null => "!!null".toList
  | .bool => "!!bool".toList
  | .int => "!!int".toList
  | .float => "!!float".toList
  | .binary => "!!binary".toList
  | _ => "!!str".toList

def writeScalar (p : Page) (isKey : Bool) (indent : Option Nat) (s : ScalarText) : Page :=
  let inner := scalarIndent indent
  match s.kind with
  | .str => match textStyle isKey s.text with
      | .plain => writePlain p (!isKey) inner s.text
      | .single => writeSingle p (!isKey) inner s.text
      | _ => writeDouble p (!isKey) inner s.text
  | .binary =>
      let p := p.indicator (kindTag .binary) true false false
      match octetStyle isKey s.text with
      | .literal => writeLiteral p inner s.text
      | _ => writeDouble p (!isKey) inner s.text
  | _ => writePlain p (!isKey) inner s.text

def anchorName (index : Nat) : List Char :=
  let digits := Nat.toDigits 10 (index + 1)
  ['i', 'd'] ++ List.replicate (3 - digits.length) '0' ++ digits

def anchor? (anchors : List Mark) (mark : Option Mark) : Option (List Char) :=
  mark.bind fun mark => (anchors.findIdx? (· == mark)).map anchorName

/-- Begins a container: refers to it if it was written before, or else gives it its
anchor. -/
def openContainer (anchors : List Mark) (p : Page) (mark : Option Mark) : Page × Bool :=
  match anchor? anchors mark with
  | none => (p, true)
  | some name =>
      if mark.any p.done.contains then (p.indicator ('*' :: name) true false false, false)
      else
        ({ p.indicator ('&' :: name) true false false with done := mark.toList ++ p.done }, true)

def emptyBrackets (p : Page) (start stop : Char) : Page :=
  (p.indicator [start] true true false).indicator [stop] false false false

def setTag : List Char := "!!set".toList

inductive Place where
  | item
  | key
  | entry
  deriving DecidableEq, Repr

/-- The length from which a key does not stand in front of its value, its tag counted. -/
def keyLimit : Nat := 128

/-- Keys that stand in front of their values: short scalars of one line, empty containers,
and containers that were written before. -/
def isSimpleKey (p : Page) : Tree → Bool
  | .scalar s =>
      let a := analyze s.text
      (kindTag s.kind).length + s.text.length < keyLimit && !a.empty && !a.multiline
  | .sequence mark items => items.isEmpty || mark.any p.done.contains
  | .mapping mark _ entries => entries.isEmpty || mark.any p.done.contains

mutual

/-- Writes a tree. Lists that are values of a mapping are not indented. -/
def writeTree (anchors : List Mark) (place : Place) (indent : Option Nat) (p : Page) :
    Tree → Page
  | .scalar s => writeScalar p (place == .key) indent s
  | .sequence mark items =>
      let (p, isNew) := openContainer anchors p mark
      if !isNew then p
      else if items.isEmpty then emptyBrackets p '[' ']'
      else writeItems anchors (deeper indent (place == .entry && !p.inIndent)) p items
  | .mapping mark isSet entries =>
      let (p, isNew) := openContainer anchors p mark
      if !isNew then p
      else
        let p := if isSet then p.indicator setTag true false false else p
        if entries.isEmpty then emptyBrackets p '\x7b' '\x7d'
        else writeEntries anchors (deeper indent false) p entries

def writeItems (anchors : List Mark) (indent : Nat) (p : Page) : List Tree → Page
  | [] => p
  | item :: rest =>
      let p := (p.indentTo indent).indicator ['-'] true false true
      writeItems anchors indent (writeTree anchors .item (some indent) p item) rest

def writeEntries (anchors : List Mark) (indent : Nat) (p : Page) : List (Tree × Tree) → Page
  | [] => p
  | (key, value) :: rest =>
      let p := p.indentTo indent
      let p :=
        if isSimpleKey p key then
          (writeTree anchors .key (some indent) p key).indicator [':'] false false false
        else
          let p := p.indicator ['?'] true false true
          let p := writeTree anchors .entry (some indent) p key
          (p.indentTo indent).indicator [':'] true false true
      writeEntries anchors indent (writeTree anchors .entry (some indent) p value) rest

end

def print (value : Value) : Except Fault String := do
  let tree ← treeOf none value
  let anchors := (({} : Sightings).visit tree).again
  let p := (writeTree anchors .item none {} tree).indentTo 0
  pure (String.ofList p.written.reverse)

end RouteDocs.Yaml
