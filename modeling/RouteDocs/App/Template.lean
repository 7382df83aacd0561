import RouteDocs.Failure

/-! Values that an application makes from the attributes of an entity. -/

namespace RouteDocs

inductive Template where
  | value (value : Value)
  | field (name : String)
  /-- The number of the sample, counted from behind `base`. -/
  | ordinal (base : Int)
  /-- A text with the number of the sample for each `#`. -/
  | numbered (text : String)
  | rendering (type : ClassName)
  | list (items : List Template)
  | tuple (items : List Template)
  | map (entries : List (Value × Template))
  | view (entries : List (Value × Template))
  deriving Repr, Inhabited

namespace Template

mutual

def fill (field : String → Except Failure Value) (index : Int) :
    Template → Except Failure Value
  | .value v => .ok v
  | .field name => field name
  | .ordinal base => .ok (.int (base + index))
  | .numbered text =>
      .ok (.text (String.ofList (text.toList.flatMap fun c =>
        if c = '#' then (toString index).toList else [c])))
  | .rendering type => .ok (.rendering type)
  | .list items => (fillItems field index items).map .list
  | .tuple items => (fillItems field index items).map .tuple
  | .map entries => (fillEntries field index entries).map fun made => .map (Value.ofEntries made)
  | .view entries => (fillEntries field index entries).map fun made => .view (Value.ofEntries made)

def fillItems (field : String → Except Failure Value) (index : Int) :
    List Template → Except Failure (List Value)
  | [] => .ok []
  | item :: rest => do
      let value ← fill field index item
      pure (value :: (← fillItems field index rest))

def fillEntries (field : String → Except Failure Value) (index : Int) :
    List (Value × Template) → Except Failure (List (Value × Value))
  | [] => .ok []
  | (key, item) :: rest => do
      let value ← fill field index item
      pure ((key, value) :: (← fillEntries field index rest))

end

end Template
end RouteDocs
