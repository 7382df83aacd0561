import RouteDocs.App.Basic

/-! Samples of entities. -/

namespace RouteDocs

structure Entity where
  type : ClassName
  attributes : List (String × Value) := []
  deriving Repr, Inhabited

namespace Entity

/-- An attribute of the entity itself, or else of its class. -/
def get (app : App) (e : Entity) (name : String) : Except Failure Value :=
  match e.attributes.lookup name with
  | some value => .ok value
  | none => match app.classMember? e.type name with
      | some (.value value) => .ok value
      | some (.type type) => .ok (.object type.name)
      | some _ => .ok (.object "method")
      | none => .error (.fault (.noAttribute e.type.name name))

def toValue (e : Entity) : Value :=
  .map (e.attributes.map fun (name, value) => (.text name, value))

def configure (app : App) (e : Entity) : Except Failure Entity :=
  match Class.member? "init_state" Class.initialState (app.lineage e.type) with
  | none => .ok e
  | some (_, sets) =>
      if (e.attributes.lookup "init_state").isSome then .ok e
      else
        sets.foldlM (fun e (name, template) => do
          let value ← template.fill (e.get app) 0
          pure { e with attributes := Keyed.put name value e.attributes }) e

def build (app : App) (type : ClassName) (f : Factory) (index : Nat) : Except Failure Entity :=
  f.fields.foldlM (fun e (name, template) => do
    let value ← template.fill (e.get app) index
    pure { e with attributes := Keyed.put name value e.attributes }) { type }

def sampleCount (kind : FactoryKind) (count : Nat) : Nat :=
  match kind with
  | .single => 1
  | .empty => 0
  | _ => count

def samples (app : App) (type : ClassName) (f : Factory) (count : Nat) :
    Except Failure (List Entity) := do
  let made ← (List.range (sampleCount f.kind count)).mapM fun i => build app type f (i + 1)
  made.mapM (configure app)

def factory? (app : App) (type : ClassName) : Option Factory :=
  (Class.member? "factory" Class.factory (app.lineage type)).map Prod.snd

end Entity
end RouteDocs
