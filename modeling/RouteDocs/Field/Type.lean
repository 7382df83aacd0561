/-! The types that a rule can give to a field. -/

namespace RouteDocs

inductive FieldType where
  | string
  | boolean
  | integer
  | number
  | object
  | array
  | file
  | other (name : String)
  deriving DecidableEq, Repr, Inhabited

namespace FieldType

def name : FieldType → String
  | string => "string"
  | boolean => "boolean"
  | integer => "integer"
  | number => "number"
  | object => "object"
  | array => "array"
  | file => "file"
  | other name => name

def known : List FieldType :=
  [string, boolean, integer, number, object, array, file]

def ofName (name : String) : FieldType :=
  (known.find? fun type => type.name == name).getD (.other name)

/-- A type with an empty name says as little as no type. -/
def isBlank (type : FieldType) : Bool :=
  type == .other ""

def named? (type : Option FieldType) : Option FieldType :=
  type.filter fun type => !type.isBlank

def isNumeric (type : FieldType) : Bool :=
  type == integer || type == number

end FieldType
end RouteDocs
