import RouteDocs.Config.Read
import RouteDocs.Files
import RouteDocs.Run
import RouteDocs.Yaml.Read

/-! Configurations in files. -/

namespace RouteDocs.Config

def parse (reasons : Reasons) (text : String) : Except Failure Config :=
  match Yaml.read text with
  | .error .markup => .error (.config (.badMarkup (reasons.markup text)))
  | .error (.fault fault) => .error (.fault fault)
  | .ok data => ofValue reasons data

def names : List String :=
  [".autodoc.yml", ".autodoc.yaml", "autodoc.yml"]

def loadFound (reasons : Reasons) (path : Path) (found : Found) : Action Config := do
  Action.report (.configLoaded path.name)
  match found with
  | .directory => throw (.fault (.isDirectory path.toText))
  | .file text => Action.lift (parse reasons text)

def loadFrom (reasons : Reasons) (files : Files) (path : Path) : Action Config := do
  match files.find? path with
  | none => throw (.config (.notFound path.toText))
  | some found => loadFound reasons path found

/-- Reads the first configuration that a directory holds, or else takes the usual one. -/
def discover (reasons : Reasons) (files : Files) (directory : Path) : Action Config := do
  let candidates := names.filterMap fun name =>
    (files.find? (directory.join name)).map fun found => (directory.join name, found)
  match candidates with
  | [] => do
      Action.report .configMissing
      pure {}
  | (path, found) :: _ => loadFound reasons path found

def load (reasons : Reasons) (files : Files) (path : Option Path) (directory : Path) :
    Action Config :=
  match path with
  | some path => loadFrom reasons files path
  | none => discover reasons files directory

end RouteDocs.Config
