import RouteDocs.App.Entity

/-! What an application answers: entities shown by resources, raw responses, errors. -/

namespace RouteDocs

structure Reply where
  data : Value
  status : Value
  deriving Repr, Inhabited

namespace Reply

def make (data status : Value) : Reply :=
  match status with
  | .null => { data, status := .int 200 }
  | status => { data, status }

end Reply

namespace App

def statusOf (app : App) (type : ClassName) : Value :=
  (app.attribute? type "status_code").getD .null

def wrapOf (app : App) (type : ClassName) : Value :=
  (app.attribute? type "wrap").getD .null

def isResource (app : App) (type : ClassName) : Bool :=
  app.isA type Contract.resourceName

def isCollection (app : App) (type : ClassName) : Bool :=
  app.isA type Contract.collectionName

def fillFor (app : App) (e : Entity) (template : Template) : Except Failure Value :=
  template.fill (e.get app) 0

def entityData (app : App) (e : Entity) : Except Failure Value :=
  match e.attributes.lookup "model_dump" with
  | some value => .error (.fault (.notCallable value.typeName))
  | none => match Class.find? "model_dump" Class.dump (app.lineage e.type) with
      | some (.member _ template) => app.fillFor e template
      | some (.attribute value) => .error (.fault (.notCallable value.typeName))
      | none => .ok e.toValue

def contentOf (app : App) (resource : ClassName) (e : Entity) : Except Failure Value := do
  let _ ← app.construct resource 1
  match Class.find? "to_dict" Class.content (app.lineage resource) with
  | some (.member _ template) => app.fillFor e template
  | some (.attribute value) => throw (.fault (.notCallable value.typeName))
  | none =>
      if app.isResource resource then app.entityData e
      else throw (.fault (.noAttribute resource.name "to_dict"))

def collected? (app : App) (collection : ClassName) : Option ClassName :=
  ((Class.member? "collects" Class.collects (app.lineage collection)).map Prod.snd).join

def itemsOf (app : App) (collection : ClassName) (samples : List Entity) :
    Except Failure Value := do
  let _ ← app.construct collection 1
  match Class.find? "to_list" Class.items (app.lineage collection) with
  | some (.member _ template) => app.fillFor { type := ⟨Builtin.module, "NoneType"⟩ } template
  | some (.attribute value) => throw (.fault (.notCallable value.typeName))
  | none => match app.collected? collection with
      | none =>
          if samples.isEmpty then pure (.list [])
          else throw (.fault (.notCallable "NoneType"))
      | some resource => do
          pure (.list (← samples.mapM (app.contentOf resource)))

def envelope (app : App) (type : ClassName) (data : Value) : Reply :=
  let key := app.wrapOf type
  Reply.make (if key.isTruthy then .map [(key, data)] else data) (app.statusOf type)

def resourceReply (app : App) (resource : ClassName) (e : Entity) : Except Failure Reply := do
  pure (app.envelope resource (← app.contentOf resource e))

def collectionReply (app : App) (collection : ClassName) (samples : List Entity) :
    Except Failure Reply := do
  pure (app.envelope collection (← app.itemsOf collection samples))

def rawReply (app : App) (type : ClassName) (sample : Option Entity) :
    Except Failure Reply := do
  let c ← app.construct type sample.toList.length
  let first := sample.getD { type := ⟨Builtin.module, "NoneType"⟩ }
  let data ← app.fillFor first c.data
  pure
    { data
      status := match c.status with
        | .null => app.statusOf type
        | status => status }

def redirection (app : App) (arguments : List Value) : Except Failure Reply := do
  let _ ← app.construct Contract.redirectName arguments.length
  pure
    { data := arguments.headD (.text "/")
      status := app.statusOf Contract.redirectName }

structure Raised where
  type : ClassName
  text : String

def argumentText (app : App) (type : ClassName) : List Value → String
  | [] => if app.isA type (Builtin.className "SyntaxError") then "None" else ""
  | [argument] =>
      if app.isA type (Builtin.className "KeyError") then argument.literal else argument.display
  | arguments => (Value.tuple arguments).literal

def raised (app : App) (type : ClassName) (arguments : List Value) : Except Failure Raised := do
  let c ← app.construct type arguments.length
  let text := match app.constructor? type with
    | none => app.argumentText type arguments
    | some _ => c.text
  let fixed := (Class.member? "__str__" Class.text (app.lineage type)).map Prod.snd
  pure { type, text := fixed.getD text }

/-- What an error tells: its text, its message, or else its name. -/
def errorMessage (app : App) (e : Raised) : Value :=
  if e.text != "" then .text e.text
  else match app.attribute? e.type "message" with
    | some message => if message.isTruthy then message else .text e.type.name
    | none => .text e.type.name

def errorReply (app : App) (e : Raised) : Reply :=
  let status := (app.attribute? e.type "status_code").getD (.int 500)
  match app.errorStyle with
  | .message => Reply.make (.map [(.text "message", app.errorMessage e)]) status
  | .coded =>
      Reply.make
        (.map [(.text "error", .map [(.text "code", status), (.text "message", .text e.text)])])
        status
  | .fixed data status => Reply.make data status

end App
end RouteDocs
