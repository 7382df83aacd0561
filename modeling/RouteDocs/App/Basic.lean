import RouteDocs.App.Contract

/-! A host application: its classes, the names that it knows, its routes. -/

namespace RouteDocs

inductive Binding where
  | type (name : ClassName)
  | module (name : String)
  | value (value : Value)
  | function (name : String) (parameters : List String)
  | application
  | builder
  deriving Repr, Inhabited

abbrev Names := List (String × Binding)

structure Module where
  name : String
  names : Names
  deriving Repr, Inhabited

structure Route where
  uri : String
  methods : List String
  /-- The class that handles requests; dynamic routes have none. -/
  controller : Option ClassName := none
  action : String
  name : Option String := none
  deriving Repr, Inhabited, DecidableEq

inductive ErrorStyle where
  /-- A message and the error's own status. -/
  | message
  /-- The status and the text, as one object. -/
  | coded
  | fixed (data : Value) (status : Value)
  deriving Repr, Inhabited

structure App where
  module : String := "app"
  /-- The application's own classes, the newest first. -/
  ownClasses : List Class := []
  /-- The names of the application's module, the newest first. -/
  names : Names := []
  modules : List Module := []
  routes : List Route := []
  errorStyle : ErrorStyle := .message
  deriving Repr, Inhabited

namespace Route

def isDynamic (route : Route) : Bool :=
  route.controller.isNone

/-- The path of the route, with one slash in front and none at the end. -/
def path (route : Route) : String :=
  let inner := route.uri.toList.dropWhile (· = '/')
  String.ofList ('/' :: (inner.reverse.dropWhile (· = '/')).reverse)

end Route

namespace App

def classes (app : App) : List Class :=
  app.ownClasses ++ Contract.classes ++ Builtin.classes

def lineage (app : App) (name : ClassName) : List Class :=
  Class.lineage app.classes name

def isA (app : App) (name ancestor : ClassName) : Bool :=
  (app.lineage name).any fun c => c.name == ancestor

def attribute? (app : App) (type : ClassName) (name : String) : Option Value :=
  Class.attribute? name (app.lineage type)

def constructor? (app : App) (type : ClassName) : Option (Class × Constructor) :=
  Class.member? "__init__" Class.constructor (app.lineage type)

/-- Makes an object from so many arguments. A class without a constructor takes any
arguments. -/
def construct (app : App) (type : ClassName) (given : Nat) : Except Failure Constructor :=
  match app.constructor? type with
  | none => .ok {}
  | some (owner, c) => do
      c.admit (owner.name.name ++ ".__init__") given
      pure c

def builtinNames : Names :=
  (Builtin.classes.map fun c => (c.name.name, .type c.name)) ++
    (Builtin.errorAliases.map fun name => (name, .type (Builtin.className "OSError"))) ++
    [("None", .value .null), ("True", .value (.bool true)), ("False", .value (.bool false)),
     ("__debug__", .value (.bool true)), ("Ellipsis", .value (.object "ellipsis")),
     ("NotImplemented", .value (.object "NotImplementedType"))] ++
    (Builtin.functionNames.map fun name => (name, .function name []))

def contractNames : Names :=
  (Contract.classes.map fun c => (c.name.name, .type c.name)) ++
    [("first_annotated_parameter", .function "first_annotated_parameter" ["func"]),
     ("body_rules", .function "body_rules" ["request"]),
     ("query_rules", .function "query_rules" ["request"]),
     ("ClassVar", .value (.object "_SpecialForm"))]

def moduleNames? (app : App) (module : String) : Option Names :=
  if module = app.module then some (app.names ++ contractNames)
  else if module = Builtin.module then some builtinNames
  else (app.modules.find? fun m => m.name == module).map Module.names

/-- Imports a module by its dotted name. A module has no modules inside. -/
def importModule (app : App) (module : String) : Except Fault Names :=
  if module = "" then .error .emptyModuleName
  else if module.toList.head? = some '.' then .error (.relativeModule module)
  else match app.moduleNames? module with
    | some names => .ok names
    | none =>
        let first := Text.split '.' module |>.headD ""
        if (app.moduleNames? first).isNone then .error (.noModule first none)
        else
          let second := ((Text.split '.' module).drop 1).headD ""
          .error (.noModule (first ++ "." ++ second) (some first))

def classMember? (app : App) (type : ClassName) (name : String) : Option Binding :=
  (app.lineage type).findSome? fun c =>
    match c.attributes.lookup name with
    | some value => some (.value value)
    | none =>
        match c.method? name with
        | some _ => some (.function (c.name.name ++ "." ++ name) [])
        | none =>
            match name, c.model, c.collects with
            | "model", some (some model), _ => some (.type model)
            | "collects", _, some (some resource) => some (.type resource)
            | _, _, _ => none

def member? (app : App) (name : String) : Binding → Option Binding
  | .module module => (app.moduleNames? module).bind (List.lookup name)
  | .type type => app.classMember? type name
  | _ => none

def resolveIn? (app : App) (names : Names) (path : String) : Option Binding :=
  match Text.split '.' path with
  | [] => none
  | head :: rest =>
      rest.foldl (fun found name => found.bind (app.member? name)) (names.lookup head)

def scope (app : App) : Names :=
  app.names ++ contractNames ++ builtinNames

def resolve? (app : App) (path : String) : Option Binding :=
  app.resolveIn? app.scope path

def resolveClass? (app : App) (path : String) : Option ClassName :=
  match app.resolve? path with
  | some (.type name) => some name
  | _ => none

end App
end RouteDocs
