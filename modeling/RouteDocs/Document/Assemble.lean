import RouteDocs.App.Handler
import RouteDocs.Config.Read
import RouteDocs.Document.Basic
import RouteDocs.Document.PathTemplate
import RouteDocs.Field.Example
import RouteDocs.Response.Resolve
import RouteDocs.Rule.Reading

/-!
The document of an application, route by route. A route gives one operation for each
of its methods; the first route that gives an operation for a path and a method counts.
-/

namespace RouteDocs.Document

open Schema (Node)

def readField (s : Rule.Setting) (name : String) (rules : Rule.Given) : Action Field := do
  let run ← getThe Run
  let (reading, failure) := Rule.read s name rules run.draw
  modifyThe Run fun run =>
    { run with draw := reading.draw, events := run.events ++ reading.warnings }
  match failure with
  | some failure => throw failure
  | none => do
      let (f, draw) ← Action.liftFault (reading.field.enrich s.sampler reading.draw)
      modifyThe Run fun run => { run with draw }
      pure f

/-- A container that was made as an example gets an identity. -/
def keep (mark : Mark) (f : Field) : Field :=
  let keepValue : Value → Value
    | .list items => .kept mark (.list items)
    | .map entries => .kept mark (.map entries)
    | value => value
  { f with sample := f.sample.map keepValue }

/-- The fields that rules describe, one after the other. The examples are those of the
`route`-th route. -/
def readFields (s : Rule.Setting) (route : Nat) (inBody : Bool) (rules : FieldRules) :
    Action (List Field) :=
  rules.zipIdx.mapM fun ((name, given), index) => do
    pure (keep (.example route inBody index) (← readField s name given))

/-- The body that fields make up. A file among them has to be sent in parts. -/
def bodyOf? (fields : List Field) : Option RequestBody :=
  if fields.isEmpty then none
  else some
    { schema := Node.ofFields fields .string
      mediaType :=
        if fields.any fun f => f.type == some .file then multipartMedia else jsonMedia }

def queryParameter (f : Field) : Parameter :=
  let node := Node.ofField f
  { name := PathTemplate.queryName f.name
    location := "query"
    required := f.required
    description := node.details.description.getD ""
    sample := f.sample
    schema := { node with type := some ((FieldType.named? node.type).getD .string) } }

def pathParameters (uri : String) : List Parameter :=
  (PathTemplate.parameters uri).map fun (name, optional) =>
    { name, location := "path", required := !optional
      schema := { name := some name, type := some .string } }

def requestBody (app : App) (s : Rule.Setting) (route : Nat) (request : ClassName) :
    Action (Option RequestBody) := do
  let rules ← Action.lift (app.bodyRules request)
  pure (bodyOf? (← readFields s route true rules))

def queryParameters (app : App) (s : Rule.Setting) (route : Nat) (request : ClassName) :
    Action (List Parameter) := do
  let rules ← Action.lift (app.queryRules request)
  pure ((← readFields s route false rules).map queryParameter)

def requestOf (app : App) (route : Route) : Action (Option ClassName) := do
  match ← Action.lift (app.requestType? route) with
  | none => pure none
  | some request => do
      let _ ← Action.lift (app.construct request 0)
      pure (some request)

def declaredErrors (app : App) (route : Route) : Action (List ClassName) :=
  (app.docstring route).raises.foldlM (fun errors name => do
    match ← Action.lift (app.errorClass? route name) with
    | none => do
        Action.report (.errorUnresolved route.uri name)
        pure errors
    | some error => pure (if errors.contains error then errors else errors ++ [error])) []

def capitalize (name : String) : String :=
  match name.toList with
  | [] => ""
  | c :: rest => String.ofList (Text.upperChar c ++ rest)

def tagKey (route : Route) : String :=
  Text.lower (App.controllerName route)

def tagFor (route : Route) : Tag :=
  { name := capitalize (App.controllerName route)
    description := "All " ++ tagKey route ++ " related endpoints" }

def addTag (tags : List (String × Tag)) (route : Route) : List (String × Tag) :=
  match tags.lookup (tagKey route) with
  | some _ => tags
  | none => tags ++ [(tagKey route, tagFor route)]

def operationId (route : Route) (method : String) : String :=
  let base := match Failure.nonEmpty route.name with
    | some name => name
    | none =>
        ((route.controller.map ClassName.name).getD "") ++ "." ++ route.action
  base ++ "." ++ Text.lower method

structure RouteParts where
  docstring : Docstring
  body : Option RequestBody
  parameters : List Parameter
  tag : Tag
  default : Option ResolvedResponse
  errors : List ResolvedResponse

def isBodiless (method : String) : Bool :=
  method == "HEAD"

def responseFor (hasBody : Bool) (r : ResolvedResponse) : Response :=
  { status := r.status, description := r.description
    content := if hasBody then r.body else none }

def operationFor (route : Route) (parts : RouteParts) (method : String) : Operation :=
  { method
    summary := parts.docstring.summary
    description := parts.docstring.description
    operationId := operationId route method
    tags := [parts.tag.name]
    requestBody := parts.body
    parameters := parts.parameters
    responses := (parts.default.toList ++ parts.errors).map (responseFor !isBodiless method) }

/-- Adds operations that are not there yet, and tells the methods that are. -/
def addOperations (operations : List (String × Operation)) (make : String → Operation) :
    List String → List (String × Operation) × List String
  | [] => (operations, [])
  | method :: rest =>
      match operations.lookup method with
      | some _ =>
          let (operations, duplicates) := addOperations operations make rest
          (operations, method :: duplicates)
      | none => addOperations (operations ++ [(method, make method)]) make rest

def partsOf (app : App) (s : Rule.Setting) (tags : List (String × Tag)) (index : Nat)
    (route : Route) : Action RouteParts := do
  let docstring := app.docstring route
  let request ← requestOf app route
  let body ← match request with
    | none => pure none
    | some request => requestBody app s index request
  let query ← match request with
    | none => pure []
    | some request => queryParameters app s index request
  let default ← match app.responseType? route with
    | none => pure none
    | some type => do pure (some (← Response.resolve app type true (some route.uri)))
  let declared ← declaredErrors app route
  let errors ← declared.mapM fun error => Response.resolveError app error (some route.uri)
  pure
    { docstring, body, parameters := pathParameters route.uri ++ query
      tag := ((addTag tags route).lookup (tagKey route)).getD (tagFor route)
      default, errors }

def addRoute (app : App) (s : Rule.Setting) (d : Document) (index : Nat) (route : Route) :
    Action Document := do
  let parts ← partsOf app s d.tags index route
  let path := PathTemplate.normalize route.path
  let (operations, duplicates) :=
    addOperations ((d.at? path).getD []) (operationFor route parts) route.methods
  for method in duplicates do
    Action.report (.duplicateOperation path method)
  pure { d with paths := Keyed.put path operations d.paths, tags := addTag d.tags route }

def addRouteOrSkip (app : App) (s : Rule.Setting) (d : Document) : Route × Nat → Action Document
  | (route, index) =>
      if route.isDynamic then do
        Action.report (.routeSkipped route.uri route.action)
        pure d
      else addRoute app s d index route

def start (config : Config) : Document :=
  { openapi := config.openapiVersion
    info := { title := config.title, version := config.version, description := config.description }
    servers := config.servers }

def settingOf (source : Source) (config : Config) (now : Moment) : Rule.Setting :=
  { sampler := source.ofLocale config.locale, now, overrides := config.overrides }

def startRun (source : Source) (config : Config) : Run :=
  { draw := source.firstDraw config.seed }

/-- The document of an application. Schemas are computed anew for every document. -/
def generate (app : App) (source : Source) (config : Config) (now : Moment) : Action Document := do
  modifyThe Run fun run => { run with shapes := {} }
  let d ← app.routes.zipIdx.foldlM (addRouteOrSkip app (settingOf source config now)) (start config)
  Action.report (.documentGenerated d.paths.length d.tags.length)
  pure d

end RouteDocs.Document
