import RouteDocs.Failure
import RouteDocs.Schema.Node

/-! Schemas of sample values. -/

namespace RouteDocs.Schema.Node

def ofScalar (name : Option String) (type : FieldType) (value : Value) : Node :=
  { name, type := some type, details := { sample := some value } }

def ofArray (name : Option String) (items : Node) : Node :=
  { name, type := some .array, items := some items }

def ofObject (name : Option String) (children : List Node) : Node :=
  { name, type := some .object, children }

section

variable {m : Type → Type} [Monad m] [MonadExceptOf Failure m]

mutual

/-- The node of a value. The items of a sequence look like its first one; resources
inside the value are left to `convert`. -/
def inferWith (convert : Option String → ClassName → m Node) (name : Option String) :
    Value → m Node
  | .bool b => pure (ofScalar name .boolean (.bool b))
  | .int n => pure (ofScalar name .integer (.int n))
  | .real x => pure (ofScalar name .number (.real x))
  | .text s => pure (ofScalar name .string (.text s))
  | .null => pure { name, details := { nullable := true } }
  | .map entries => do pure (ofObject name (← inferEntries convert entries))
  | .view entries => do pure (ofObject name (← inferEntries convert entries))
  | .list items => inferFirst convert name items
  | .tuple items => inferFirst convert name items
  | .range start stop =>
      if start < stop then pure (ofArray name (ofScalar none .integer (.int start)))
      else throw (.emptySequence name)
  | .rendering type => convert name type
  | .kept _ value => inferWith convert name value
  | .bytes isBuffer octets => throw (.unsupportedValue name (.bytes isBuffer octets))
  | .set items => throw (.unsupportedValue name (.set items))
  | .date d => throw (.unsupportedValue name (.date d))
  | .moment m => throw (.unsupportedValue name (.moment m))
  | .object typeName => throw (.unsupportedValue name (.object typeName))

def inferFirst (convert : Option String → ClassName → m Node) (name : Option String) :
    List Value → m Node
  | [] => throw (.emptySequence name)
  | first :: _ => do pure (ofArray name (← inferWith convert none first))

def inferEntries (convert : Option String → ClassName → m Node) :
    List (Value × Value) → m (List Node)
  | [] => pure []
  | (key, value) :: rest => do
      let child ← inferWith convert (some key.display) value
      let children ← inferEntries convert rest
      pure (child :: children)

end

end

def ofValue (name : Option String) (value : Value) : Except Failure Node :=
  inferWith (fun name type => .error (.unsupportedValue name (.rendering type))) name value

end RouteDocs.Schema.Node
