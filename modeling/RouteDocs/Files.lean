import RouteDocs.Keyed
import RouteDocs.Text.Cut

/-! Paths, and the files of a directory with their texts. -/

namespace RouteDocs

structure Path where
  isAbsolute : Bool := false
  parts : List String := []
  deriving DecidableEq, Repr, Inhabited

namespace Path

/-- Reads a path. Empty parts and single points say nothing. -/
def ofText (text : String) : Path :=
  { isAbsolute := text.toList.head? == some '/'
    parts := (Text.split '/' text).filter fun part => part != "" && part != "." }

def toText (p : Path) : String :=
  match p.isAbsolute, p.parts with
  | false, [] => "."
  | false, parts => Text.join "/" parts
  | true, parts => "/" ++ Text.join "/" parts

def name (p : Path) : String :=
  p.parts.getLastD ""

def parent (p : Path) : Path :=
  { p with parts := p.parts.dropLast }

def join (p : Path) (name : String) : Path :=
  { p with parts := p.parts ++ [name] }

/-- The end of the name from its last point on, which is neither the first character
nor the last one. -/
def suffix (p : Path) : String :=
  match Text.cutLast '.' p.name.toList with
  | some (stem, ending) =>
      if stem.isEmpty || ending.isEmpty then "" else String.ofList ('.' :: ending)
  | none => ""

def upwards : String := ".."

/-- Goes on to a part. A step upwards takes back the part before it; there is nothing
above the root. -/
def step (p : Path) (part : String) : Path :=
  if part != upwards then p.join part
  else match p.parts.getLast? with
    | none => if p.isAbsolute then p else p.join part
    | some last => if last == upwards then p.join part else p.parent

/-- The path without steps upwards, except at the start. -/
def normal (p : Path) : Path :=
  p.parts.foldl step { p with parts := [] }

def isBelow (p above : Path) : Bool :=
  p.isAbsolute == above.isAbsolute && above.parts.isPrefixOf p.parts && p != above

end Path

structure Files where
  entries : List (Path × String) := []
  deriving DecidableEq, Repr, Inhabited

inductive Found where
  | file (text : String)
  | directory
  deriving DecidableEq, Repr

namespace Files

def read? (files : Files) (path : Path) : Option String :=
  files.entries.lookup path.normal

/-- Directories are those that hold files, and those that the current one is in. -/
def isDirectory (files : Files) (path : Path) : Bool :=
  path.normal.parts.all (· == Path.upwards) ||
    files.entries.any fun entry => entry.1.isBelow path.normal

def find? (files : Files) (path : Path) : Option Found :=
  match files.read? path with
  | some text => some (.file text)
  | none => if files.isDirectory path then some .directory else none

def isBlocked (files : Files) (path : Path) : Bool :=
  files.entries.any fun entry => path.normal.isBelow entry.1

def write (files : Files) (path : Path) (text : String) : Files :=
  { entries := Keyed.put path.normal text files.entries }

def ofList (files : List (String × String)) : Files :=
  files.foldl (fun made (path, text) => made.write (.ofText path) text) {}

def toList (files : Files) : List (String × String) :=
  files.entries.map fun (path, text) => (path.toText, text)

def changedSince (files before : Files) : Files :=
  { entries := files.entries.filter fun (path, text) => before.read? path != some text }

theorem read?_write (files : Files) (path other : Path) (text : String) :
    (files.write path text).read? other =
      if other.normal = path.normal then some text else files.read? other := by
  simp [write, read?, Keyed.lookup_put]

end Files
end RouteDocs
