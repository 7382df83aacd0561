import RouteDocs.Schema.Node

/-! Schemas as the mappings of an OpenAPI document. -/

namespace RouteDocs.Schema

abbrev Entries := List (Value × Value)

def entry (key : String) (value : Value) : Value × Value :=
  (.text key, value)

def textEntry (key : String) (text : Option String) : Entries :=
  match text with
  | none => []
  | some text => if text = "" then [] else [entry key (.text text)]

def nameValue (name : Option String) : Value :=
  match name with
  | none => .null
  | some name => .text name

namespace Details

def boundKeys? : Option FieldType → Option (String × String)
  | some .integer => some ("minimum", "maximum")
  | some .number => some ("minimum", "maximum")
  | some .array => some ("minItems", "maxItems")
  | some .string => some ("minLength", "maxLength")
  | none => some ("minLength", "maxLength")
  | _ => none

def isNumeric (type : Option FieldType) : Bool :=
  type.any FieldType.isNumeric

/-- One bound, and whether it is excluded; that is said of numbers only. -/
def boundEntries (key exclusiveKey : String) (bound : Option Number) (exclusive : Bool) :
    Entries :=
  match bound with
  | none => []
  | some bound =>
      entry key (.ofNumber bound) ::
        (if exclusive then [entry exclusiveKey (.bool true)] else [])

def boundsEntries (type : Option FieldType) (b : Bounds) : Entries :=
  match boundKeys? type with
  | none => []
  | some (low, high) =>
      boundEntries low "exclusiveMinimum" b.min (b.exclusiveMin && isNumeric type) ++
        boundEntries high "exclusiveMaximum" b.max (b.exclusiveMax && isNumeric type)

/-- The entries for the type. Files are binary strings. -/
def typeEntries (type : Option FieldType) (d : Details) : Entries :=
  match type with
  | none => textEntry "format" d.format
  | some .file =>
      [entry "type" (.text FieldType.string.name), entry "format" (.text "binary")] ++
        (match d.fileExtensions with
          | some (first :: rest) => [entry "x-extensions" (.list ((first :: rest).map .text))]
          | _ => [])
  | some type => entry "type" (.text type.name) :: textEntry "format" d.format

def entries (type : Option FieldType) (d : Details) : Entries :=
  d.typeEntries type ++
    textEntry "description" d.description ++
    (if d.nullable then [entry "nullable" (.bool true)] else []) ++
    (match d.literals with
      | some (first :: rest) => [entry "enum" (.list (first :: rest))]
      | _ => []) ++
    textEntry "pattern" d.pattern ++
    boundsEntries type d.bounds

def sampleEntries (d : Details) : Entries :=
  match d.sample with
  | none => []
  | some sample => [entry "example" sample]

end Details

namespace Node

def requiredNames (children : List Node) : List Value :=
  (children.filter fun child => child.details.required).map fun child => nameValue child.name

/-- The entries that introduce the children: a type if there is none, then the
properties and the names of the required ones. -/
def objectEntries (type : Option FieldType) (children : List Node) (properties : Entries) :
    Entries :=
  if type = some .object ∨ !children.isEmpty then
    (if type.isNone then [entry "type" (.text FieldType.object.name)] else []) ++
      (if children.isEmpty then [] else [entry "properties" (.map (Value.ofEntries properties))]) ++
      (if (requiredNames children).isEmpty then []
        else [entry "required" (.list (requiredNames children))])
  else []

mutual

def toOpenApi : Node → Value
  | ⟨_, type, details, children, items⟩ =>
      .map
        (details.entries type ++
          objectEntries type children (propertiesOf children) ++
          (if type = some .array then [entry "items" (itemsValue items)] else []) ++
          (if children.isEmpty ∧ type ≠ some .array then details.sampleEntries else []))

def propertiesOf : List Node → Entries
  | [] => []
  | child :: rest => (nameValue child.name, child.toOpenApi) :: propertiesOf rest

def itemsValue : Option Node → Value
  | none => .map []
  | some items => items.toOpenApi

end

def shapeProperties (children : Entries) : Entries :=
  if children.isEmpty then [] else [entry "properties" (.map (Value.ofEntries children))]

mutual

/-- Names, types and nesting alone. -/
def shape : Node → Value
  | ⟨_, type, _, children, items⟩ =>
      .map
        (entry "type" (nameValue (type.map FieldType.name)) ::
          (shapeProperties (shapesOf children) ++ shapeItems items))

def shapesOf : List Node → Entries
  | [] => []
  | child :: rest => (nameValue child.name, child.shape) :: shapesOf rest

def shapeItems : Option Node → Entries
  | none => []
  | some items => [entry "items" items.shape]

end

end Node
end RouteDocs.Schema
