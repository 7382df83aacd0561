import RouteDocs.Schema.Render
import RouteDocs.Text.Case

/-! API documents and the mappings that they are written as. -/

namespace RouteDocs

namespace Document

open Schema (Node Entries entry textEntry)

def jsonMedia : String := "application/json"

def multipartMedia : String := "multipart/form-data"

structure Info where
  title : String := "API Specification"
  version : String := "v1"
  description : String := ""
  deriving Repr, Inhabited

structure Tag where
  name : String
  description : String := ""
  deriving Repr, Inhabited, DecidableEq

structure Parameter where
  name : String
  location : String
  required : Bool := false
  description : String := ""
  sample : Option Value := none
  schema : Node
  deriving Repr, Inhabited

structure RequestBody where
  schema : Node
  mediaType : String := jsonMedia
  required : Bool := true
  deriving Repr, Inhabited

structure Response where
  status : Int
  description : String
  content : Option Node := none
  deriving Repr, Inhabited

structure Operation where
  method : String
  summary : String := ""
  description : String := ""
  operationId : String
  tags : List String := []
  requestBody : Option RequestBody := none
  parameters : List Parameter := []
  responses : List Response := []
  deriving Repr, Inhabited

end Document

structure Document where
  openapi : String := "3.0.2"
  info : Document.Info := {}
  servers : List String := []
  paths : List (String × List (String × Document.Operation)) := []
  tags : List (String × Document.Tag) := []
  deriving Repr, Inhabited

namespace Document

open Schema (Node Entries entry textEntry)

def without (key : String) : Value → Value
  | .map entries => .map (entries.filter fun (k, _) => !k.same (.text key))
  | value => value

/-- Descriptions and examples of parameters stand beside their schema. -/
def Parameter.toOpenApi (p : Parameter) : Value :=
  .map
    ([entry "name" (.text p.name), entry "in" (.text p.location),
      entry "required" (.bool p.required)] ++
      textEntry "description" (some p.description) ++
      (match p.sample with
        | none => []
        | some sample => [entry "example" sample]) ++
      [entry "schema" (without "example" (without "description" p.schema.toOpenApi))])

def mediaContent (mediaType : String) (schema : Node) : Value :=
  .map [(.text mediaType, .map [entry "schema" schema.toOpenApi])]

def RequestBody.toOpenApi (b : RequestBody) : Value :=
  .map [entry "required" (.bool b.required), entry "content" (mediaContent b.mediaType b.schema)]

def Response.toOpenApi (r : Response) : Value :=
  .map
    (entry "description" (.text r.description) ::
      (match r.content with
        | none => []
        | some schema => [entry "content" (mediaContent jsonMedia schema)]))

def firstByStatus (seen : List Int) : List Response → List Response
  | [] => []
  | r :: rest =>
      if seen.contains r.status then firstByStatus seen rest
      else r :: firstByStatus (r.status :: seen) rest

def responsesValue (responses : List Response) : Value :=
  match firstByStatus [] responses with
  | [] => .map [entry "default" (.map [entry "description" (.text "Unspecified response")])]
  | responses => .map (responses.map fun r => entry (toString r.status) r.toOpenApi)

def listEntry (key : String) (items : List Value) : Entries :=
  if items.isEmpty then [] else [entry key (.list items)]

def Operation.toOpenApi (o : Operation) : Value :=
  .map
    ([entry "operationId" (.text o.operationId)] ++
      listEntry "tags" (o.tags.map .text) ++
      textEntry "summary" (some o.summary) ++
      textEntry "description" (some o.description) ++
      listEntry "parameters" (o.parameters.map Parameter.toOpenApi) ++
      (match o.requestBody with
        | none => []
        | some body => [entry "requestBody" body.toOpenApi]) ++
      [entry "responses" (responsesValue o.responses)])

/-- The operations of a path under their methods in small letters. -/
def operationsValue (operations : List (String × Operation)) : Value :=
  .map (Value.ofEntries (operations.map fun (method, o) =>
    entry (Text.lower method) o.toOpenApi))

def Info.toOpenApi (info : Info) : Value :=
  .map
    [entry "title" (.text info.title), entry "version" (.text info.version),
     entry "description" (.text info.description)]

def Tag.toOpenApi (tag : Tag) : Value :=
  .map [entry "name" (.text tag.name), entry "description" (.text tag.description)]

def toOpenApi (d : Document) : Value :=
  .map
    ([entry "openapi" (.text d.openapi), entry "info" d.info.toOpenApi] ++
      listEntry "servers" (d.servers.map fun url => .map [entry "url" (.text url)]) ++
      [entry "paths" (.map (d.paths.map fun (path, operations) =>
         entry path (operationsValue operations))),
       entry "tags" (.list (d.tags.map fun (_, tag) => tag.toOpenApi))])

def at? (d : Document) (path : String) : Option (List (String × Operation)) :=
  d.paths.lookup path

/-- The operation for a path and a method in any letters. -/
def operation? (d : Document) (path method : String) : Option Operation :=
  (d.at? path).bind (List.lookup (Text.upper method))

end Document
end RouteDocs
