import RouteDocs.Schema.Node
import RouteDocs.Text.Cut

/-!
Fields as one tree. The path of a field has points between its segments: `address.city`
is the child `city` of the object `address`, and `tags.*` stands for the items of the
array `tags`.
-/

namespace RouteDocs.Schema

/-- The segment that stands for the items of an array. -/
def wildcard : String := "*"

def segments (path : String) : List String :=
  Text.split '.' path

def segmentName (segment : String) : Option String :=
  if segment = wildcard then none else some segment

namespace Node

def at? (segment : String) (node : Node) : Option Node :=
  if segment = wildcard then node.items else node.child? (some segment)

def reach? : List String → Node → Option Node
  | [], node => some node
  | segment :: rest, node => (node.at? segment).bind (reach? rest)

def changeNamed (name : String) (change : Node → Node) : List Node → List Node
  | [] => [change { name := some name }]
  | child :: rest =>
      if child.name = some name then change child :: rest
      else child :: changeNamed name change rest

/-- Changes the node below at a segment, which is made if it is missing. -/
def change (segment : String) (change : Node → Node) (node : Node) : Node :=
  if segment = wildcard then { node with items := some (change (node.items.getD {})) }
  else { node with children := changeNamed segment change node.children }

/-- A node that holds others gets a type from the segment that follows, if it has
none. -/
def holding (next : String) (node : Node) : Node :=
  { node with
    type := some ((FieldType.named? node.type).getD
      (if next = wildcard then .array else .object)) }

/-- Takes over the nodes below another one, and its type if there is none. -/
def adopt (node existing : Node) : Node :=
  { node with
    type := (FieldType.named? node.type).or existing.type
    children := if node.children.isEmpty then existing.children else node.children
    items := node.items.or existing.items }

/-- Puts a node in its place below its parent. What deeper paths made there before
is kept. -/
def place (parent : Node) (segment : String) (node : Node) : Node :=
  let node := node.rename (segmentName segment)
  let node := match parent.at? segment with
    | none => node
    | some existing => node.adopt existing
  if segment = wildcard then { parent with items := some node } else parent.addChild node

def insert (node : Node) : List String → Node → Node
  | [], root => root
  | [segment], root => root.place segment node
  | segment :: next :: rest, root =>
      root.change segment fun below => insert node (next :: rest) (below.holding next)

mutual

/-- Gives every node a type that has none: by what is below it, or else the given
one. -/
def fillTypes (default : FieldType) : Node → Node
  | ⟨name, type, details, children, items⟩ =>
      let type := match type with
        | some type => type
        | none =>
            if !children.isEmpty then .object
            else if items.isSome then .array
            else default
      ⟨name, some type, details, fillTypesAll default children, fillTypesItems default items⟩

def fillTypesAll (default : FieldType) : List Node → List Node
  | [] => []
  | child :: rest => fillTypes default child :: fillTypesAll default rest

def fillTypesItems (default : FieldType) : Option Node → Option Node
  | none => none
  | some items => some (fillTypes default items)

end

def insertField (root : Node) (f : Field) : Node :=
  insert (ofField f) (segments f.name) root

/-- The tree of all the fields. Nodes that no field describes get the types of what
they hold; the given type is for those that hold nothing. -/
def ofFields (fields : List Field) (default : FieldType) : Node :=
  fillTypes default (fields.foldl insertField { type := some .object })

end Node
end RouteDocs.Schema
