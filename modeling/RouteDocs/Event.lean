import RouteDocs.Value.Basic

/-! What a run reports while it works. -/

namespace RouteDocs

inductive Level where
  | debug
  | info
  | warning
  deriving DecidableEq, Repr, Inhabited

inductive Event where
  | ruleLeftOut (field typeName : String)
  | routeSkipped (uri action : String)
  | errorUnresolved (uri name : String)
  | duplicateOperation (path method : String)
  | documentGenerated (paths tags : Nat)
  | shapeComputed (key : String)
  | configLoaded (path : String)
  | configMissing
  deriving DecidableEq, Repr, Inhabited

namespace Event

def level : Event → Level
  | ruleLeftOut .. => .warning
  | routeSkipped .. => .debug
  | errorUnresolved .. => .info
  | duplicateOperation .. => .warning
  | documentGenerated .. => .info
  | shapeComputed _ => .debug
  | configLoaded _ => .info
  | configMissing => .debug

def message : Event → String
  | ruleLeftOut .. => "Rule object does not implement parse() and will not be documented"
  | routeSkipped .. => "Skipping dynamic route"
  | errorUnresolved .. => "Declared error type could not be resolved"
  | duplicateOperation .. => "Duplicate operation ignored"
  | documentGenerated .. => "Document generated"
  | shapeComputed _ => "Computing schema"
  | configLoaded _ => "Loading config"
  | configMissing => "No config file found, using defaults"

def fields : Event → List (String × Value)
  | ruleLeftOut field typeName => [("field", .text field), ("rule", .text typeName)]
  | routeSkipped uri action => [("uri", .text uri), ("action", .text action)]
  | errorUnresolved uri name => [("route", .text uri), ("error", .text name)]
  | duplicateOperation path method => [("path", .text path), ("method", .text method)]
  | documentGenerated paths tags =>
      [("paths", .int (paths : Nat)), ("tags", .int (tags : Nat))]
  | shapeComputed key => [("key", .text key)]
  | configLoaded path => [("path", .text path)]
  | configMissing => []

end Event
end RouteDocs
