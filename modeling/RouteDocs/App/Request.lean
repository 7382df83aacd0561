import RouteDocs.App.Basic

/-! The rules of requests. -/

namespace RouteDocs.App

def isRequest (app : App) (type : ClassName) : Bool :=
  app.isA type Contract.requestName

/-- Requests that tell rules for the query apart from rules for the body. -/
def isDocumentable (app : App) (type : ClassName) : Bool :=
  app.isA type Contract.documentableName

def rulesUnder (app : App) (type : ClassName) (name : String)
    (member : Class → Option FieldRules) : Except Failure (Option FieldRules) :=
  match Class.find? name member (app.lineage type) with
  | none => .ok none
  | some (.member _ rules) => .ok (some rules)
  | some (.attribute value) => .error (.fault (.notCallable value.typeName))

def ownRules (app : App) (type : ClassName) : Except Failure FieldRules := do
  pure ((← app.rulesUnder type "rules" Class.rules).getD [])

/-- The rules of the body: those for the documentation, if there are some. -/
def bodyRules (app : App) (type : ClassName) : Except Failure FieldRules :=
  match Class.member? "documentation_rules" Class.documentationRules (app.lineage type) with
  | some (_, rules) => .ok rules
  | none =>
      if app.isDocumentable type then do
        match ← app.rulesUnder type "body_rules" Class.bodyRules with
        | some rules => pure rules
        | none => app.ownRules type
      else app.ownRules type

def queryRules (app : App) (type : ClassName) : Except Failure FieldRules :=
  if app.isDocumentable type then do
    pure ((← app.rulesUnder type "query_rules" Class.queryRules).getD [])
  else .ok []

end RouteDocs.App
