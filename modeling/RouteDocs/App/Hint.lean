import RouteDocs.Value.Show

/-! What stands where a host application declares a type. -/

namespace RouteDocs

inductive Hint where
  | type (name : ClassName)
  /-- A value that is no type, such as the text of a name that means nothing. -/
  | value (value : Value)
  | optional (text : String)
  | listOf (text : String)
  deriving Repr, Inhabited

namespace Hint

/-- The hint as it is written, a class without its module. -/
def display : Hint → String
  | type name => name.name
  | value v => v.literal
  | optional text => text
  | listOf text => text

/-- The hint in a sentence, where nothing is said of the items of a list. -/
def describe : Hint → String
  | listOf _ => "list"
  | hint => hint.display

def class? : Hint → Option ClassName
  | type name => some name
  | _ => none

end Hint
end RouteDocs
