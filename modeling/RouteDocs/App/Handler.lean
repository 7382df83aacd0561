import RouteDocs.App.Docstring
import RouteDocs.App.Request
import RouteDocs.App.Signature

/-! What the handler of a route says about it. -/

namespace RouteDocs

structure Handler where
  owner : ClassName
  name : String
  method : Method
  deriving Repr

namespace Handler

def qualifiedName (h : Handler) : String :=
  h.owner.name ++ "." ++ h.name

end Handler

namespace App

def handlerIn? (action : String) : List Class → Option (Except Value Handler)
  | [] => none
  | c :: ancestors =>
      match c.attributes.lookup action with
      | some value => some (.error value)
      | none => match c.method? action with
          | some method => some (.ok { owner := c.name, name := action, method })
          | none => handlerIn? action ancestors

/-- The handler of a route, unless the route is dynamic or its action is missing. A
plain value may stand in its place. -/
def handler? (app : App) (route : Route) : Option (Except Value Handler) :=
  route.controller.bind fun controller => handlerIn? route.action (app.lineage controller)

def function? (app : App) (route : Route) : Except Failure (Option Handler) :=
  match app.handler? route with
  | none => .ok none
  | some (.ok handler) => .ok (some handler)
  | some (.error value) =>
      if value.typeName = "NoneType" then .ok none
      else .error (.fault (.noFunction value.literal))

def requestType? (app : App) (route : Route) : Except Failure (Option ClassName) := do
  match ← app.function? route with
  | none => pure none
  | some handler => pure (app.firstClass? handler.method app.isRequest)

def responseType? (app : App) (route : Route) : Option Hint :=
  match app.handler? route with
  | some (.ok handler) =>
      match handler.method.returns.map (app.hintReader handler.method) with
      | some (.value .null) => none
      | hint => hint
  | _ => none

/-- The docstring of a function, or else of the nearest one that it replaces. -/
def docOf (app : App) (handler : Handler) : Option String :=
  handler.method.doc.or
    ((app.lineage handler.owner).findSome? fun c => (c.method? handler.name).bind Method.doc)

def docstring (app : App) (route : Route) : Docstring :=
  match app.handler? route with
  | some (.ok handler) => match app.docOf handler with
      | some doc => Docstring.read (String.ofList (Docstring.clean doc.toList))
      | none => {}
  | _ => {}

def withoutLast? (part : List Char) : List Char → Option (List Char)
  | [] => none
  | c :: rest => match withoutLast? part rest with
      | some shorter => some (c :: shorter)
      | none => Text.dropStart? part (c :: rest)

/-- A name without the word for its kind: `UserController` is `User`. The word stays
where nothing stands before it. -/
def baseName (name : List Char) : List Char :=
  match name with
  | [] => []
  | c :: rest => match withoutLast? "Controller".toList rest with
      | some shorter => c :: shorter
      | none => name

def controllerName (route : Route) : String :=
  let name := match route.controller with
    | none => route.action
    | some controller => controller.name
  String.ofList (baseName name.toList)

def errorScope (app : App) (route : Route) : Names :=
  let own := match route.controller with
    | none => []
    | some controller =>
        if controller.module = app.module then [] else (app.moduleNames? controller.module).getD []
  let shared := match app.handler? route with
    | some (.ok _) => app.names ++ contractNames
    | _ => match route.controller with
        | some controller => (app.moduleNames? controller.module).getD []
        | none => []
  own ++ shared ++ builtinNames

/-- What a dotted name means as a member of a module. A relative or empty name of a
module is a fault. -/
def importedName? (app : App) (name : String) : Except Failure (Option Binding) :=
  match Text.cutLast '.' name.toList with
  | none => .ok none
  | some (module, member) =>
      match app.importModule (String.ofList module) with
      | .ok names => .ok (names.lookup (String.ofList member))
      | .error (.noModule ..) => .ok none
      | .error fault => .error (.fault fault)

def errorClass? (app : App) (route : Route) (name : String) :
    Except Failure (Option ClassName) := do
  let imported ← app.importedName? name
  let found := match imported with
    | some (.value .null) => app.resolveIn? (app.errorScope route) name
    | some found => some found
    | none => app.resolveIn? (app.errorScope route) name
  match found with
  | some (.type type) => pure (if app.isA type Contract.errorName then some type else none)
  | _ => pure none

end App
end RouteDocs
