import RouteDocs.Field.Type
import RouteDocs.Value.Basic

/-!
What all the rules of one field come to. Types, bounds and texts are those of the
last rule that gave one; literals, characters and extensions add up; `required`
is never turned off.
-/

namespace RouteDocs

inductive RuleText where
  | text (text : String)
  | object (label : String)
  deriving DecidableEq, Repr, Inhabited

structure Bounds where
  min : Option Number := none
  max : Option Number := none
  exclusiveMin : Bool := false
  exclusiveMax : Bool := false
  deriving DecidableEq, Repr, Inhabited

structure Field where
  name : String
  type : Option FieldType := none
  required : Bool := false
  nullable : Bool := false
  bounds : Bounds := {}
  literals : Option (List Value) := none
  validCharacters : List String := []
  requiredCharacters : List String := []
  startsWith : Option String := none
  endsWith : Option String := none
  fileExtensions : Option (List String) := none
  pattern : Option String := none
  format : Option String := none
  sample : Option Value := none
  messages : List String := []
  rules : List RuleText := []
  deriving Repr, Inhabited

namespace Field

def unite {α : Type} (same : α → α → Bool) (known : List α) : List α → List α
  | [] => known
  | item :: rest =>
      unite same (if known.any (same item) then known else known ++ [item]) rest

/-- A literal is added once; the truth value, the number and the text of one are
different literals. -/
def addLiterals (values : List Value) (f : Field) : Field :=
  { f with literals := some (unite Value.sameLiteral (f.literals.getD []) values) }

def addValidCharacters (characters : List String) (f : Field) : Field :=
  { f with validCharacters := unite (· == ·) f.validCharacters characters }

def addRequiredCharacter (character : String) (f : Field) : Field :=
  { f with requiredCharacters := unite (· == ·) f.requiredCharacters [character] }

def addFileExtensions (extensions : List String) (f : Field) : Field :=
  { f with fileExtensions := some (unite (· == ·) (f.fileExtensions.getD []) extensions) }

def resolvedType (f : Field) : FieldType :=
  (FieldType.named? f.type).getD .string

end Field
end RouteDocs
