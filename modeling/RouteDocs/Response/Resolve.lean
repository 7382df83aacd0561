import RouteDocs.App.Docstring
import RouteDocs.App.Rendering
import RouteDocs.App.Signature
import RouteDocs.Response.Status
import RouteDocs.Run
import RouteDocs.Schema.Infer
import RouteDocs.Value.Whole

/-!
Documented responses. What a handler answers with is made from samples, and the
schema of the answer is inferred. Resources inside an answer are documented from
samples of their own, so that the schema of a resource does not depend on the place
where it is met.
-/

namespace RouteDocs

inductive ResponseKind where
  | singleResource
  | resourceCollection
  | rawResponse
  | redirect
  | declaredError
  deriving DecidableEq, Repr, Inhabited

namespace ResponseKind

def name : ResponseKind → String
  | singleResource => "single_resource"
  | resourceCollection => "resource_collection"
  | rawResponse => "raw_response"
  | redirect => "redirect"
  | declaredError => "declared_error"

end ResponseKind

structure ResolvedResponse where
  kind : ResponseKind
  type : ClassName
  status : Int
  description : String
  body : Option Schema.Node := none
  deriving Repr, Inhabited

namespace Response

open Schema (Node)

def phraseOf? (status : Value) : Option String :=
  (status.number?.bind fun n => match n with
    | .int n => some n
    | .real x => if x.isFractional then none else x.truncate?).bind Status.phrase?

/-- What a response means: the summary of its class, the phrase for the status, or
the name of the class. Docstrings of the contract's own classes do not count. -/
def describe (type : ClassName) (doc : Option String) (status : Value) : String :=
  let own := (Text.split '.' type.module).head? == some Contract.package
  let summary := if own then "" else (Docstring.read (doc.getD "")).summary
  if summary != "" then summary else (phraseOf? status).getD type.name

def make (app : App) (kind : ResponseKind) (type : ClassName) (status : Value)
    (body : Option Node) : Except Failure ResolvedResponse :=
  let doc := ((app.lineage type).head?).bind Class.doc
  match status.toWhole with
  | .ok n => .ok { kind, type, status := n, description := describe type doc status, body }
  | .error problem => .error (.fault (.invalid [("status_code", problem.kind)]))

def sample (app : App) (entity : ClassName) (count : Nat) : Action (List Entity) := do
  match Entity.factory? app entity with
  | none => throw (.noFactory entity)
  | some factory => do
      modifyThe Run fun run => { run with samplings := run.samplings + 1 }
      Action.lift (Entity.samples app entity factory count)

def firstSample (app : App) (entity : ClassName) : Action Entity := do
  match ← sample app entity 1 with
  | [] => throw (.fault .missingItem)
  | first :: _ => pure first

/-- The entity that a resource shows: the one it names, or the one that its
constructor declares. -/
def entityOf? (app : App) (resource : ClassName) : Except Failure (Option ClassName) :=
  if app.isResource resource then
    match (Class.member? "model" Class.model (app.lineage resource)).map Prod.snd with
    | some (some model) => .ok (some model)
    | _ => .ok (app.annotatedEntity? resource)
  else .error (.fault (.classHasNoAttribute resource.name "entity_type"))

def entityOf (app : App) (resource : ClassName) : Except Failure ClassName := do
  match ← entityOf? app resource with
  | some entity => pure entity
  | none => throw (.untypedResource resource none)

def shapeOf (type : ClassName) (compute : Action Node) : Action Node :=
  ShapeCache.getOrCompute type do
    Action.report (.shapeComputed type.name)
    compute

abbrev Convert := Option String → ClassName → Action Node

def resourceShape (app : App) (convert : Convert) (resource : ClassName) : Action Node := do
  let entity ← Action.lift (entityOf app resource)
  shapeOf resource do
    let sample ← firstSample app entity
    Node.inferWith convert none (← Action.lift (app.contentOf resource sample))

def needsResource (collection : ClassName) : String :=
  "The resource collection " ++ collection.name ++
    " needs a 'collects' resource in order to document it"

def underZero (entries : List (Value × Value)) : Except Failure (Option Value) :=
  if entries.isEmpty then .ok none
  else match entries.find? fun (key, _) => key.same (.int 0) with
    | some (_, value) => .ok (some value)
    | none => .error (.fault (.missingKey "0"))

/-- The first of the items that a collection lists, if it lists any. Whatever has something
under the number zero passes for a list. -/
def firstItem (items : Value) : Except Failure (Option Value) :=
  match items.bare with
  | .list items => .ok items.head?
  | .tuple items => .ok items.head?
  | .text s => .ok (s.toList.head?.map fun c => .text (String.ofList [c]))
  | .bytes _ octets => .ok (octets.head?.map fun octet => .int octet.toNat)
  | .range start stop => .ok ((Value.rangeItems start stop).head?.map .int)
  | .map entries => underZero entries
  | .view entries => underZero entries
  | other =>
      if other.isTruthy then .error (.fault (.notSubscriptable other.typeName)) else .ok none

/-- The schema of a list of entities. Its items look like the first one; an empty list
looks like one of single resources. -/
def collectionShape (app : App) (convert : Convert) (collection : ClassName) : Action Node := do
  if !app.isCollection collection then
    throw (.fault (.classHasNoAttribute collection.name "collects"))
  match app.collected? collection with
  | none => throw (.untypedResource collection (some (needsResource collection)))
  | some resource => do
      let entity ← Action.lift (entityOf app resource)
      shapeOf collection do
        let samples ← sample app entity 2
        let items ← Action.lift (app.itemsOf collection samples)
        match ← Action.lift (firstItem items) with
        | none => do pure (Node.ofArray none (← resourceShape app convert resource))
        | some first => do
            let items ← shapeOf resource (Node.inferWith convert none first)
            pure (Node.ofArray none items)

/-- The node for a resource inside a value, down to the given depth. Beyond it, a class
contains itself. -/
def convert (app : App) : (depth : Nat) → Convert
  | 0, _, _ => throw (.fault .circularNesting)
  | depth + 1, name, type => do
      let node ← if app.isCollection type then collectionShape app (convert app depth) type
        else resourceShape app (convert app depth) type
      pure (node.rename name)

/-- Resources that do not contain themselves are nested no deeper than there are
classes. -/
def nested (app : App) : Convert :=
  convert app (app.classes.length + 1)

def envelop (node : Node) (key : Value) : Node :=
  if key.isTruthy then
    { type := some .object, children := [node.rename (some key.display)] }
  else node

def bodyOf (app : App) (data : Value) : Action (Option Node) := do
  match data with
  | .null => pure none
  | data => do pure (some (← Node.inferWith (nested app) none data))

def resolveRaw (app : App) (type : ClassName) : Action ResolvedResponse := do
  let sample ← match app.annotatedEntity? type with
    | none => pure none
    | some entity => do pure (some (← firstSample app entity))
  let reply ← Action.lift (app.rawReply type sample)
  let body ← bodyOf app reply.data
  Action.lift (make app .rawResponse type reply.status body)

def resolveClass (app : App) (type : ClassName) (route : Option String) :
    Action ResolvedResponse := do
  if app.isCollection type then do
    let node ← collectionShape app (nested app) type
    Action.lift
      (make app .resourceCollection type (app.statusOf type) (some (envelop node (app.wrapOf type))))
  else if app.isResource type then do
    let node ← resourceShape app (nested app) type
    Action.lift
      (make app .singleResource type (app.statusOf type) (some (envelop node (app.wrapOf type))))
  else if app.isA type Contract.responseName then resolveRaw app type
  else if app.isA type Contract.redirectName then
    Action.lift (make app .redirect type (.int 302) none)
  else throw (.unsupportedResponse (.type type) route)

def resolve (app : App) (type : Hint) (hasBody : Bool) (route : Option String) :
    Action ResolvedResponse := do
  match type with
  | .type name => do
      let resolved ← resolveClass app name route
      pure (if hasBody then resolved else { resolved with body := none })
  | type => throw (.unsupportedResponse type route)

def makeError (app : App) (type : ClassName) (route : Option String) :
    Except Failure App.Raised :=
  (app.raised type []).mapError fun _ => .errorNeedsArguments type route

def resolveError (app : App) (type : ClassName) (route : Option String) :
    Action ResolvedResponse := do
  let error ← Action.lift (makeError app type route)
  let reply := app.errorReply error
  let body ← bodyOf app reply.data
  Action.lift (make app .declaredError type reply.status body)

end Response
end RouteDocs
