import RouteDocs.App.Template
import RouteDocs.Rule.Given

/-! Classes of a host application, each with what it defines itself. -/

namespace RouteDocs

structure Parameter where
  name : String
  /-- The declared type, as it is written. -/
  hint : Option String := none
  hasDefault : Bool := false
  deriving Repr, Inhabited

/-- A function of a class, the object it is called on left aside. -/
structure Method where
  parameters : List Parameter := []
  returns : Option String := none
  doc : Option String := none
  deriving Repr, Inhabited

structure Constructor where
  parameters : List Parameter := []
  data : Template := .value .null
  status : Value := .null
  text : String := ""
  deriving Repr, Inhabited

inductive FactoryKind where
  | list
  | tuple
  | set
  | single
  | empty
  deriving DecidableEq, Repr, Inhabited

structure Factory where
  kind : FactoryKind := .list
  fields : List (String × Template) := []
  deriving Repr, Inhabited

abbrev FieldRules := List (String × Rule.Given)

/-- What a class defines itself. A member that is `none` comes from the parent. -/
structure Class where
  name : ClassName
  parent : Option ClassName := none
  doc : Option String := none
  attributes : List (String × Value) := []
  constructor : Option Constructor := none
  factory : Option Factory := none
  /-- Attributes that a new sample is given after it was made. -/
  initialState : Option (List (String × Template)) := none
  /-- What an entity says of itself when it is asked for its data. -/
  dump : Option Template := none
  /-- The entity that a resource shows, if one is named. -/
  model : Option (Option ClassName) := none
  collects : Option (Option ClassName) := none
  content : Option Template := none
  items : Option Template := none
  rules : Option FieldRules := none
  bodyRules : Option FieldRules := none
  queryRules : Option FieldRules := none
  documentationRules : Option FieldRules := none
  text : Option String := none
  methods : List (String × Method) := []
  deriving Repr, Inhabited

namespace Class

/-- A class and its ancestors, the nearest first. Classes are listed with the newest
first, and a class is newer than its parent. -/
def lineage : List Class → ClassName → List Class
  | [], _ => []
  | c :: earlier, name =>
      if c.name = name then
        c :: (match c.parent with
          | none => []
          | some parent => lineage earlier parent)
      else lineage earlier name

/-- What the nearest class says under a name: a plain value, or a member together
with the class that defines it. -/
inductive Found (α : Type) where
  | attribute (value : Value)
  | member (owner : Class) (member : α)

def find? {α : Type} (name : String) (member : Class → Option α) :
    List Class → Option (Found α)
  | [] => none
  | c :: ancestors => match member c with
      | some found => some (.member c found)
      | none => match c.attributes.lookup name with
          | some value => some (.attribute value)
          | none => find? name member ancestors

def member? {α : Type} (name : String) (member : Class → Option α) (lineage : List Class) :
    Option (Class × α) :=
  match find? name member lineage with
  | some (.member owner found) => some (owner, found)
  | _ => none

def attribute? (name : String) (lineage : List Class) : Option Value :=
  lineage.findSome? fun c => c.attributes.lookup name

/-- The functions that stand behind the other members of a class. -/
def memberMethods (c : Class) : List (String × Method) :=
  let present {α : Type} (name : String) (member : Option α) : List (String × Method) :=
    if member.isSome then [(name, {})] else []
  (match c.constructor with
    | none => []
    | some constructor => [("__init__", { parameters := constructor.parameters : Method })]) ++
    present "factory" c.factory ++ present "init_state" c.initialState ++
    present "model_dump" c.dump ++ present "to_dict" c.content ++ present "to_list" c.items ++
    present "rules" c.rules ++ present "body_rules" c.bodyRules ++
    present "query_rules" c.queryRules ++
    present "documentation_rules" c.documentationRules ++ present "__str__" c.text

def method? (name : String) (c : Class) : Option Method :=
  (c.methods.lookup name).or (c.memberMethods.lookup name)

end Class

/-- Refuses a call with too few or too many arguments, the object itself not
counted. -/
def Constructor.admit (c : Constructor) (function : String) (given : Nat) :
    Except Failure Unit :=
  let most := c.parameters.length + 1
  let least := (c.parameters.filter fun p => !p.hasDefault).length + 1
  let missing := (c.parameters.drop given).filter fun p => !p.hasDefault
  if most < given + 1 then .error (.fault (.tooManyArguments function least most (given + 1)))
  else if missing.isEmpty then .ok ()
  else .error (.fault (.missingArguments function (missing.map Parameter.name)))

end RouteDocs
