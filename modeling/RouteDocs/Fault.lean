import RouteDocs.Text.Cut
import RouteDocs.Value.Show

/-!
Faults of a host application, of its values and of arithmetic. They are no fault
of the documentation and end a run as they are.
-/

namespace RouteDocs

inductive Fault where
  | infinityToInteger
  | nanToInteger
  | integerTooLarge
  | tooManyDigits
  | dateOutOfRange
  | yearOutOfRange (year : Nat)
  | partOutOfRange (part : String) (least most : Nat)
  | noSuchDay
  /-- A distance from UTC of a day or more, in microseconds. -/
  | offsetOutOfRange (offset : Int)
  | noInteger (base : Nat) (text : String)
  | noReal (text : String)
  | tooManyDigitsRead (count : Nat)
  | emptyNumeral
  | noCharacter
  | codeTooLarge
  | emptyRule
  | missingItem
  | unknownFieldAttribute (name : String)
  | noAttribute (typeName name : String)
  | classHasNoAttribute (typeName name : String)
  | moduleHasNoAttribute (module name : String)
  | noAction (controller action : String)
  | missingArguments (function : String) (names : List String)
  | tooManyArguments (function : String) (least most given : Nat)
  | notCallable (typeName : String)
  | notMapping (typeName : String)
  | notSubscriptable (typeName : String)
  | controllerIsNoClass (value : String)
  | noHandler (value : String)
  | noFunction (value : String)
  | tooFewParts (expected given : Nat)
  | tooManyParts (expected : Nat)
  | unsupportedMethods (methods : List String)
  | unknownFormat (name : String)
  | badApplicationPath (path : String)
  | noModule (name : String) (parent : Option String)
  | emptyModuleName
  | relativeModule (name : String)
  | notAnApplication (path : String)
  | notSerializable (typeName : String)
  | badKey (typeName : String)
  | unhashable (typeName : String)
  | keywordsNotText
  | unrepresentable
  | circularNesting
  | missingKey (key : String)
  | isDirectory (path : String)
  | notDirectory (path : String)
  | fileExists (path : String)
  | invalid (details : List (String × String))
  deriving Repr, Inhabited, DecidableEq

namespace Fault

/-- The names in a sentence: `'a'`, `'a' and 'b'`, `'a', 'b', and 'c'`. -/
def enumerate (names : List String) : String :=
  match names.map fun name => "'" ++ name ++ "'" with
  | [] => ""
  | [a] => a
  | [a, b] => a ++ " and " ++ b
  | quoted => Text.join ", " quoted.dropLast ++ ", and " ++ quoted.getLastD ""

def plural (count : Nat) (noun : String) : String :=
  if count == 1 then noun else noun ++ "s"

def message : Fault → String
  | infinityToInteger => "cannot convert float infinity to integer"
  | nanToInteger => "cannot convert float NaN to integer"
  | integerTooLarge => "int too large to convert to float"
  | tooManyDigits =>
      "Exceeds the limit (4300 digits) for integer string conversion; " ++
        "use sys.set_int_max_str_digits() to increase the limit"
  | dateOutOfRange => "date value out of range"
  | yearOutOfRange year => "year " ++ toString year ++ " is out of range"
  | partOutOfRange part least most =>
      part ++ " must be in " ++ toString least ++ ".." ++ toString most
  | noSuchDay => "day is out of range for month"
  | offsetOutOfRange offset =>
      "offset must be a timedelta strictly between -timedelta(hours=24) and " ++
        "timedelta(hours=24), not " ++ Value.durationLiteral offset ++ "."
  | noInteger base text =>
      "invalid literal for int() with base " ++ toString base ++ ": " ++
        (Value.text text).literal
  | noReal text => "could not convert string to float: " ++ (Value.text text).literal
  | tooManyDigitsRead count =>
      "Exceeds the limit (4300 digits) for integer string conversion: value has " ++
        toString count ++ " digits; use sys.set_int_max_str_digits() to increase the limit"
  | emptyNumeral => "string index out of range"
  | noCharacter => "chr() arg not in range(0x110000)"
  | codeTooLarge => "Python int too large to convert to C int"
  | emptyRule => "tuple index out of range"
  | missingItem => "list index out of range"
  | unknownFieldAttribute name =>
      "\"FieldDescriptor\" object has no field \"" ++ name ++ "\""
  | noAttribute typeName name =>
      "'" ++ typeName ++ "' object has no attribute '" ++ name ++ "'"
  | classHasNoAttribute typeName name =>
      "type object '" ++ typeName ++ "' has no attribute '" ++ name ++ "'"
  | moduleHasNoAttribute module name =>
      "module '" ++ module ++ "' has no attribute '" ++ name ++ "'"
  | noAction controller action => controller ++ " has no action '" ++ action ++ "'"
  | missingArguments function names =>
      function ++ "() missing " ++ toString names.length ++ " required positional " ++
        plural names.length "argument" ++ ": " ++ enumerate names
  | tooManyArguments function least most given =>
      let takes := if least == most then toString most
        else "from " ++ toString least ++ " to " ++ toString most
      function ++ "() takes " ++ takes ++ " positional " ++
        (if least == most then plural most "argument" else "arguments") ++
        " but " ++ toString given ++ (if given == 1 then " was given" else " were given")
  | notCallable typeName => "'" ++ typeName ++ "' object is not callable"
  | notMapping typeName => "'" ++ typeName ++ "' object has no attribute 'items'"
  | notSubscriptable typeName => "'" ++ typeName ++ "' object is not subscriptable"
  | controllerIsNoClass value => "Controller must be a class, got " ++ value
  | noHandler value => "Cannot route to " ++ value
  | noFunction value => value ++ " is not a callable object"
  | tooFewParts expected given =>
      "not enough values to unpack (expected " ++ toString expected ++ ", got " ++
        toString given ++ ")"
  | tooManyParts expected =>
      "too many values to unpack (expected " ++ toString expected ++ ")"
  | unsupportedMethods methods =>
      "Unsupported HTTP method(s): " ++ Text.join ", " methods
  | unknownFormat name => "Unknown format '" ++ name ++ "', expected one of json, yaml"
  | badApplicationPath path => "Expected 'module:attribute', got '" ++ path ++ "'"
  | noModule name none => "No module named " ++ (Value.text name).literal
  | noModule name (some parent) =>
      "No module named " ++ (Value.text name).literal ++ "; " ++ (Value.text parent).literal ++
        " is not a package"
  | emptyModuleName => "Empty module name"
  | relativeModule name =>
      "the 'package' argument is required to perform a relative import for '" ++ name ++ "'"
  | notAnApplication path => "'" ++ path ++ "' is not an Application"
  | notSerializable typeName => "Object of type " ++ typeName ++ " is not JSON serializable"
  | badKey typeName =>
      "keys must be str, int, float, bool or None, not " ++ typeName
  | unhashable typeName => "unhashable type: '" ++ typeName ++ "'"
  | keywordsNotText => "keywords must be strings"
  | unrepresentable => ""
  | circularNesting => "maximum recursion depth exceeded in comparison"
  | missingKey key => key
  | isDirectory path => "[Errno 21] Is a directory: " ++ (Value.text path).literal
  | notDirectory path => "[Errno 20] Not a directory: " ++ (Value.text path).literal
  | fileExists path => "[Errno 17] File exists: " ++ (Value.text path).literal
  | invalid _ => ""

end Fault
end RouteDocs
