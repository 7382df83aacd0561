import RouteDocs.Field.Example
import RouteDocs.Rule.Given

/-! The attributes of a field, and the ways to add to it, by their names. -/

namespace RouteDocs

namespace Value

def elements (v : Value) : List Value :=
  match v.bare with
  | .list items => items
  | .tuple items => items
  | .set items => items
  | .range start stop => (rangeItems start stop).map .int
  | .text s => s.toList.map fun c => .text (String.singleton c)
  | .map entries => entries.map Prod.fst
  | .view entries => entries.map Prod.fst
  | _ => []

def text? : Value → Option String
  | .text s => some s
  | .kept _ v => v.text?
  | _ => none

def texts (v : Value) : List String :=
  v.elements.filterMap text?

def elements? (v : Value) : Option (List Value) :=
  match v.bare with
  | .null => none
  | _ => some v.elements

end Value

namespace Rule.Adjustment

def ofAttribute (name : String) (v : Value) : Adjustment :=
  match name with
  | "name" => .name v.display
  | "type" => .type (v.text?.map FieldType.ofName)
  | "required" => .required v.isTruthy
  | "nullable" => .nullable v.isTruthy
  | "min" => .min v.number?
  | "max" => .max v.number?
  | "exclusive_min" => .exclusiveMin v.isTruthy
  | "exclusive_max" => .exclusiveMax v.isTruthy
  | "enum" => .literals v.elements?
  | "valid_characters" => .validCharacters v.texts
  | "required_characters" => .requiredCharacters v.texts
  | "starts_with" => .startsWith v.text?
  | "ends_with" => .endsWith v.text?
  | "file_extensions" => .fileExtensions (v.elements?.map fun _ => v.texts)
  | "pattern" => .pattern v.text?
  | "format" => .format v.text?
  | "example" => .sample (Field.sampleOf v)
  | "messages" => .messages v.texts
  | "raw_rules" => .rules (v.elements.map fun rule => .text rule.display)
  | name => .unknownAttribute name

def ofMethod (name : String) (v : Value) : Adjustment :=
  match name with
  | "add_enum" => .addLiterals v.elements
  | "add_valid_characters" => .addValidCharacters v.texts
  | "add_required_character" => .addRequiredCharacter v.display
  | "add_file_extensions" => .addFileExtensions v.texts
  | name => .unknownMethod name

end Rule.Adjustment
end RouteDocs
