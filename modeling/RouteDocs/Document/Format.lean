import RouteDocs.Document.Basic
import RouteDocs.Json.Print
import RouteDocs.Yaml.Write

/-! The formats that documents are written in. -/

namespace RouteDocs

inductive Format where
  | json
  | yaml
  deriving DecidableEq, Repr, Inhabited

namespace Format

def name : Format → String
  | json => "json"
  | yaml => "yaml"

def ofName? (name : String) : Option Format :=
  [json, yaml].find? fun format => format.name == name

def ofSuffix (suffix : String) : Format :=
  if [".yml", ".yaml"].contains (Text.lower suffix) then yaml else json

end Format

namespace Document

def print (d : Document) : Format → Except Fault String
  | .json => Json.print d.toOpenApi
  | .yaml => Yaml.print d.toOpenApi

def printAs (d : Document) (format : String) : Except Fault String :=
  match Format.ofName? format with
  | some format => d.print format
  | none => .error (.unknownFormat format)

end Document
end RouteDocs
