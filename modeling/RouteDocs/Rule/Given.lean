import RouteDocs.Fault
import RouteDocs.Field.Basic
import RouteDocs.Rule.Token
import RouteDocs.Value.Show

/-!
The rules of a field as an application writes them: a text, a rule in parts, an
object, or lists of these in any depth.
-/

namespace RouteDocs.Rule

inductive Adjustment where
  | name (name : String)
  | type (type : Option FieldType)
  | required (required : Bool)
  | nullable (nullable : Bool)
  | min (min : Option Number)
  | max (max : Option Number)
  | exclusiveMin (exclusive : Bool)
  | exclusiveMax (exclusive : Bool)
  | literals (literals : Option (List Value))
  | validCharacters (characters : List String)
  | requiredCharacters (characters : List String)
  | startsWith (text : Option String)
  | endsWith (text : Option String)
  | fileExtensions (extensions : Option (List String))
  | pattern (pattern : Option String)
  | format (format : Option String)
  | sample (sample : Option Value)
  | messages (messages : List String)
  | rules (rules : List RuleText)
  | unknownAttribute (name : String)
  | addLiterals (values : List Value)
  | addValidCharacters (characters : List String)
  | addRequiredCharacter (character : String)
  | addFileExtensions (extensions : List String)
  | unknownMethod (name : String)
  deriving Repr, Inhabited

namespace Adjustment

def apply (f : Field) : Adjustment → Except Fault Field
  | .name x => .ok { f with name := x }
  | .type x => .ok { f with type := x }
  | .required x => .ok { f with required := x }
  | .nullable x => .ok { f with nullable := x }
  | .min x => .ok { f with bounds := { f.bounds with min := x } }
  | .max x => .ok { f with bounds := { f.bounds with max := x } }
  | .exclusiveMin x => .ok { f with bounds := { f.bounds with exclusiveMin := x } }
  | .exclusiveMax x => .ok { f with bounds := { f.bounds with exclusiveMax := x } }
  | .literals x => .ok { f with literals := x }
  | .validCharacters x => .ok { f with validCharacters := x }
  | .requiredCharacters x => .ok { f with requiredCharacters := x }
  | .startsWith x => .ok { f with startsWith := x }
  | .endsWith x => .ok { f with endsWith := x }
  | .fileExtensions x => .ok { f with fileExtensions := x }
  | .pattern x => .ok { f with pattern := x }
  | .format x => .ok { f with format := x }
  | .sample x => .ok { f with sample := x }
  | .messages x => .ok { f with messages := x }
  | .rules x => .ok { f with rules := x }
  | .unknownAttribute x => .error (.unknownFieldAttribute x)
  | .addLiterals x => .ok (f.addLiterals x)
  | .addValidCharacters x => .ok (f.addValidCharacters x)
  | .addRequiredCharacter x => .ok (f.addRequiredCharacter x)
  | .addFileExtensions x => .ok (f.addFileExtensions x)
  | .unknownMethod x => .error (.noAttribute "FieldDescriptor" x)

end Adjustment

structure Custom where
  label : String
  adjustments : List Adjustment
  deriving Repr, Inhabited

inductive Given where
  | nothing
  | text (text : String)
  | list (items : List Given)
  | parts (parts : List Value)
  | custom (rule : Custom)
  /-- A value that says nothing about itself. -/
  | foreign (value : Value)
  deriving Repr, Inhabited

inductive Item where
  | token (text : String)
  | parts (parts : List Value)
  | custom (rule : Custom)
  | foreign (value : Value)
  deriving Repr, Inhabited

mutual

def Given.items : Given → List Item
  | .nothing => []
  | .text text => (tokens text).map .token
  | .list items => itemsOf items
  | .parts parts => [.parts parts]
  | .custom rule => [.custom rule]
  | .foreign value => [.foreign value]

def itemsOf : List Given → List Item
  | [] => []
  | first :: rest => first.items ++ itemsOf rest

end

/-- The parameters of a rule in parts. A single list stands for its items. -/
def partParameters : List Value → List Value
  | [single] => match single.bare with
      | .list items => items
      | .tuple items => items
      | _ => [single]
  | parts => parts

def Call.ofParts? : List Value → Option Call
  | [] => none
  | name :: parameters => some
      { name := normalizeName name.display
        parameters := (partParameters parameters).map Value.display }

end RouteDocs.Rule
