import RouteDocs.Field.Basic
import RouteDocs.Text.Blank

/-! Schemas of fields and bodies: trees of named children and of items. -/

namespace RouteDocs

namespace Schema

/-- What a node says about itself, apart from its name, its type and the nodes
below it. -/
structure Details where
  required : Bool := false
  nullable : Bool := false
  literals : Option (List Value) := none
  sample : Option Value := none
  description : Option String := none
  format : Option String := none
  pattern : Option String := none
  bounds : Bounds := {}
  fileExtensions : Option (List String) := none
  deriving Repr, Inhabited

structure Node where
  name : Option String := none
  type : Option FieldType := none
  details : Details := {}
  children : List Node := []
  items : Option Node := none
  deriving Repr

instance : Inhabited Node := ⟨{}⟩

/-- The messages of a field as one text, with single spaces. -/
def describe (messages : List String) : Option String :=
  let parts := (messages.map fun m => Text.squeezeChars m.toList).filter (!·.isEmpty)
  if parts.isEmpty then none else some (String.ofList (Text.joinWith [' '] parts))

namespace Node

def child? (node : Node) (name : Option String) : Option Node :=
  node.children.find? fun child => child.name == name

/-- A node in the place of the first one of its name, or behind all others. -/
def put (node : Node) : List Node → List Node
  | [] => [node]
  | child :: rest => if child.name = node.name then node :: rest else child :: put node rest

def addChild (parent node : Node) : Node :=
  { parent with children := put node parent.children }

def rename (name : Option String) (node : Node) : Node :=
  { node with name }

def detailsOf (f : Field) : Details where
  required := f.required
  nullable := f.nullable
  literals := f.literals.filter fun literals => !literals.isEmpty
  sample := f.sample
  description := describe f.messages
  format := f.format
  pattern := f.pattern
  bounds := f.bounds
  fileExtensions := f.fileExtensions

/-- The node for a field, named by its whole path. -/
def ofField (f : Field) : Node :=
  { name := some f.name, type := f.type, details := detailsOf f }

end Node
end Schema
end RouteDocs
