import RouteDocs.Document.Format
import RouteDocs.Files

/-! The arguments of the command line. -/

namespace RouteDocs.CommandLine

inductive Switch where
  | output
  | format
  | config
  | title
  | version
  | appDirectory
  | verbose
  | help
  deriving DecidableEq, Repr, Inhabited

namespace Switch

def takesValue : Switch → Bool
  | verbose => false
  | help => false
  | _ => true

def isPath : Switch → Bool
  | output => true
  | config => true
  | appDirectory => true
  | _ => false

def ofLong? (name : String) : Option Switch :=
  match name with
  | "--output" => some output
  | "--format" => some format
  | "--config" => some config
  | "--title" => some title
  | "--version-tag" => some version
  | "--app-dir" => some appDirectory
  | "--verbose" => some verbose
  | "--help" => some help
  | _ => none

def ofLetter? (c : Char) : Option Switch :=
  match c with
  | 'o' => some output
  | 'v' => some verbose
  | _ => none

end Switch

/-- Options with their values, the last one first, and the other arguments. -/
structure Arguments where
  options : List (Switch × String) := []
  operands : List String := []
  deriving Repr

namespace Arguments

def addOption (a : Arguments) (switch : Switch) (value : String) : Arguments :=
  { a with options := (switch, value) :: a.options }

def addOperands (a : Arguments) (operands : List String) : Arguments :=
  { a with operands := a.operands ++ operands }

/-- Letters behind a hyphen: switches, and at last perhaps an option with the letters
that are left for its value. -/
def letters? : List Char → Option (List Switch × Option (Switch × List Char))
  | [] => some ([], none)
  | c :: rest => match Switch.ofLetter? c with
      | none => none
      | some switch =>
          if switch.takesValue then some ([], some (switch, rest))
          else (letters? rest).map fun (switches, last) => (switch :: switches, last)

def isOption (argument : String) : Bool :=
  match argument.toList with
  | '-' :: _ :: _ => true
  | _ => false

structure Said where
  options : List (Switch × String) := []
  open? : Option Switch := none

def said? (argument : String) : Option Said :=
  let (name, attached) := Text.cut '=' argument.toList
  match Switch.ofLong? (String.ofList name), attached with
  | some switch, some value =>
      if switch.takesValue then some { options := [(switch, String.ofList value)] } else none
  | some switch, none =>
      if switch.takesValue then some { open? := some switch }
      else some { options := [(switch, "")] }
  | none, _ => match argument.toList with
      | '-' :: '-' :: _ => none
      | _ :: letters => (letters? letters).map fun (switches, last) =>
          let flags := switches.map fun switch => (switch, "")
          match last with
          | none => { options := flags }
          | some (switch, []) => { options := flags, open? := some switch }
          | some (switch, value) => { options := flags ++ [(switch, String.ofList value)] }
      | [] => none

/-- Reads arguments up to two hyphens; what follows them is no option. -/
def readFrom (a : Arguments) (open? : Option Switch) : List String → Option Arguments
  | [] => if open?.isSome then none else some a
  | argument :: rest => match open? with
      | some switch => readFrom (a.addOption switch argument) none rest
      | none =>
          if argument = "--" then some (a.addOperands rest)
          else if isOption argument then do
            let said ← said? argument
            readFrom (said.options.foldl (fun a (switch, value) => a.addOption switch value) a)
              said.open? rest
          else readFrom (a.addOperands [argument]) none rest

def read? (arguments : List String) : Option Arguments :=
  readFrom {} none arguments

def has (a : Arguments) (switch : Switch) : Bool :=
  (a.options.lookup switch).isSome

def paths (a : Arguments) : List Path :=
  let named := (a.options.filter fun option => option.1.isPath).map fun option =>
    Path.ofText option.2
  named.flatMap fun path =>
    (List.range path.parts.length).map fun i => { path with parts := path.parts.take (i + 1) }

end Arguments

structure Options where
  application : String
  output : Path
  format : Format
  config : Option Path
  title : Option String
  version : Option String
  verbose : Bool
  deriving Repr, Inhabited

namespace Options

def format? (output : Path) (name : Option String) : Option Format :=
  match name with
  | none => some (.ofSuffix output.suffix)
  | some name => Format.ofName? name

def existing? (files : Files) (text : String) : Option Path :=
  if text = "" ∨ (files.find? (.ofText text)).isNone then none else some (.ofText text)

def isFile (files : Files) (text : String) : Bool :=
  (files.read? (.ofText text)).isSome

/-- The options, if all that is needed is there and all that is there makes sense. -/
def of? (files : Files) (a : Arguments) : Option Options := do
  let application ← match a.operands with
    | [application] => some application
    | _ => none
  let output ← (a.options.lookup .output).map Path.ofText
  let format ← format? output (a.options.lookup .format)
  let config ← match a.options.lookup .config with
    | none => some none
    | some text => (existing? files text).map some
  if (a.options.lookup .appDirectory).any (isFile files) then none
  else
    some
      { application, output, format, config
        title := a.options.lookup .title
        version := a.options.lookup .version
        verbose := a.has .verbose }

end Options
end RouteDocs.CommandLine
