import RouteDocs.Text.Blank
import RouteDocs.Text.Case
import RouteDocs.Text.Cut

/-!
The textual notation of rules: `required|between:1,10|regex:/^(a|b)$/`. A rule has
a name and, behind a colon, parameters with commas between them; bars stand between
rules. The parameter of a pattern rule reaches to the end of the text.
-/

namespace RouteDocs.Rule

/-- An underscore goes between a small letter or a digit and a capital one. -/
def separateWords : List Char → List Char
  | c :: d :: rest =>
      if (c.isLower || c.isDigit) && d.isUpper then c :: '_' :: separateWords (d :: rest)
      else c :: separateWords (d :: rest)
  | short => short

/-- `RequiredIf` and `required-if` are spellings of `required_if`. -/
def normalizeChars (name : List Char) : List Char :=
  Text.lowerChars
    (separateWords ((Text.trimChars name).map fun c => if c = '-' then '_' else c))

def normalizeName (name : String) : String :=
  String.ofList (normalizeChars name.toList)

def isPatternRule (name : List Char) : Bool :=
  let name := String.ofList (normalizeChars name)
  name == "regex" || name == "not_regex"

inductive Place where
  | name
  | parameters
  /-- In a pattern, which nothing ends. -/
  | pattern
  deriving DecidableEq, Repr

/-- The rules of a text, where `read` holds the characters of the rule being read,
last one first. -/
def tokensFrom (place : Place) (read : List Char) : List Char → List (List Char)
  | [] => [read.reverse]
  | c :: rest =>
      if place = .pattern then tokensFrom .pattern (c :: read) rest
      else if c = '|' then read.reverse :: tokensFrom .name [] rest
      else if place = .name ∧ c = ':' then
        tokensFrom (if isPatternRule read.reverse then .pattern else .parameters)
          (c :: read) rest
      else tokensFrom place (c :: read) rest

def tokens (text : String) : List String :=
  (tokensFrom .name [] text.toList).map String.ofList

structure Call where
  name : String
  parameters : List String := []
  deriving DecidableEq, Repr, Inhabited

namespace Call

def ofToken (token : String) : Call :=
  let (name, parameters) := Text.cut ':' token.toList
  let call := { name := String.ofList (normalizeChars name) : Call }
  match parameters with
  | none => call
  | some text =>
      if isPatternRule name then { call with parameters := [String.ofList text] }
      else
        { call with
          parameters := (Text.splitAt ',' text).map fun p => String.ofList (Text.trimChars p) }

def toToken (call : Call) : String :=
  if call.parameters.isEmpty then call.name
  else call.name ++ ":" ++ Text.join "," call.parameters

end Call
end RouteDocs.Rule
