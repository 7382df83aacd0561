import RouteDocs.Field.Type
import RouteDocs.Text.Blank
import RouteDocs.Text.Cut

/-!
Sentences that describe rules. A template such as `The :attribute must be at least
:min.` has its placeholders filled in, the longest ones first, so that `:values` is
not taken for `:value`.
-/

namespace RouteDocs.Rule

/-- Placeholders, from the longest to the shortest. -/
inductive Placeholder where
  | subject
  | decimal
  | values
  | digits
  | format
  | other
  | value
  | date
  | size
  | min
  | max
  deriving DecidableEq, Repr

namespace Placeholder

def text : Placeholder → String
  | subject => ":attribute"
  | decimal => ":decimal"
  | values => ":values"
  | digits => ":digits"
  | format => ":format"
  | other => ":other"
  | value => ":value"
  | date => ":date"
  | size => ":size"
  | min => ":min"
  | max => ":max"

def all : List Placeholder :=
  [subject, decimal, values, digits, format, other, value, date, size, min, max]

end Placeholder

/-- The name of a field in a sentence: `address.city` is the `address city`. -/
def label (name : String) : String :=
  let spaced := name.toList.map fun c => if c = '_' then ' ' else c
  let plain := (Text.replace ['.', '*'] [] spaced).map fun c => if c = '.' then ' ' else c
  String.ofList (Text.squeezeChars plain)

inductive Wording where
  | plain
  | between
  | first (place : Placeholder)
  /-- One or two numbers of places. -/
  | decimal
  /-- The first one is another field. -/
  | other
  | others
  | condition
  | exception
  /-- The field is to be repeated. -/
  | confirmation
  deriving DecidableEq, Repr

namespace Wording

def fillings (field : String) (parameters : List String) :
    Wording → List (Placeholder × String)
  | plain => []
  | between => [(.min, parameters.getD 0 ""), (.max, parameters.getD 1 "")]
  | first place => [(place, parameters.getD 0 "")]
  | decimal => [(.decimal, Text.join "-" (parameters.take 2))]
  | other =>
      let field := String.ofList (Text.dropEnd ['.', '*'] (parameters.getD 0 "").toList)
      [(.other, label field), (.values, Text.join ", " (parameters.map label))]
  | others => [(.values, Text.join " / " (parameters.map label))]
  | condition => [(.other, label (parameters.getD 0 "")), (.value, parameters.getD 1 "")]
  | exception =>
      [(.other, label (parameters.getD 0 "")), (.values, Text.join ", " (parameters.drop 1))]
  | confirmation => [(.other, label (field ++ "_confirmation"))]

def filling? (wording : Wording) (field : String) (parameters : List String)
    (place : Placeholder) : Option String :=
  match (wording.fillings field parameters).lookup place with
  | some text => some text
  | none => match place with
    | .subject => some (label field)
    | .values => some (Text.join ", " parameters)
    | _ => none

def fillPlace (wording : Wording) (field : String) (parameters : List String)
    (text : List Char) (place : Placeholder) : List Char :=
  match wording.filling? field parameters place with
  | none => text
  | some filling => Text.replace place.text.toList filling.toList text

/-- The template with its placeholders filled in, one after the other. -/
def fill (wording : Wording) (field : String) (parameters : List String)
    (template : String) : String :=
  String.ofList
    (Placeholder.all.foldl (wording.fillPlace field parameters) template.toList)

end Wording

inductive Measure where
  | numeric
  | file
  | string
  | array
  deriving DecidableEq, Repr

def Measure.ofType : Option FieldType → Measure
  | some .integer => numeric
  | some .number => numeric
  | some .file => file
  | some .array => array
  | _ => string

inductive Template where
  | none
  | text (text : String)
  | sized (numeric file string array : String)
  deriving DecidableEq, Repr

def Template.select? (type : Option FieldType) : Template → Option String
  | .none => Option.none
  | .text template => some template
  | .sized numeric file string array =>
      some (match Measure.ofType type with
        | .numeric => numeric
        | .file => file
        | .string => string
        | .array => array)

/-- Templates that an application gives for a field and a rule. The last one for
the same two counts. -/
abbrev Overrides := List ((String × String) × String)

def Overrides.find? (overrides : Overrides) (field rule : String) : Option String :=
  List.lookup (field, rule) overrides.reverse

end RouteDocs.Rule
