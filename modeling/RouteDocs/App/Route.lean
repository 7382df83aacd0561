import RouteDocs.App.Basic
import RouteDocs.Text.Case

/-! Registering routes. -/

namespace RouteDocs.Route

inductive Target where
  | action (controller : ClassName) (action : String)
  | function (name : String)
  | value (value : Value)
  deriving Repr, Inhabited

def knownMethods : List String :=
  ["GET", "HEAD", "POST", "PUT", "PATCH", "DELETE", "OPTIONS"]

/-- The methods that a verb registers: reading comes with asking for the head alone. -/
def verbMethods (verb : String) : List String :=
  if verb = "get" then ["GET", "HEAD"] else [verb]

def normalizeMethods (methods : List String) : List String :=
  (methods.map Text.upper).foldl (fun made m => if made.contains m then made else made ++ [m]) []

def hasAction (app : App) (controller : ClassName) (action : String) : Bool :=
  match app.classMember? controller action with
  | some (.function ..) => true
  | some (.type _) => true
  | _ => false

def Target.resolve (app : App) : Target → Except Fault (Option ClassName × String)
  | .action controller name =>
      if hasAction app controller name then .ok (some controller, name)
      else .error (.noAction controller.name name)
  | .function name => .ok (none, name)
  | .value v => match v.bare with
      | .tuple [controller, _] => .error (.controllerIsNoClass controller.literal)
      | .tuple parts =>
          .error (if parts.length < 2 then .tooFewParts 2 parts.length else .tooManyParts 2)
      | _ => .error (.noHandler v.literal)

def register (app : App) (methods : List String) (uri : String) (target : Target)
    (name : Option String) : Except Fault Route := do
  let methods := normalizeMethods methods
  let unknown := methods.filter fun m => !knownMethods.contains m
  if !unknown.isEmpty then throw (.unsupportedMethods unknown)
  let (controller, action) ← target.resolve app
  pure { uri, methods, controller, action, name }

end RouteDocs.Route
