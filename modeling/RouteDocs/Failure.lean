import RouteDocs.App.Hint
import RouteDocs.Fault

/-! Why no documentation can be written. -/

namespace RouteDocs

inductive ConfigProblem where
  | notFound (path : String)
  | badMarkup (reason : String)
  | notMapping
  | badValues (details : List (String × String)) (reason : String)
  | other (message : String)
  deriving Repr, DecidableEq, Inhabited

inductive Failure where
  | tooFewParameters (rule : String) (count : Int) (field : Option String)
  | unknownRule (rule : String) (field : Option String)
  | untypedResource (type : ClassName) (hint : Option String)
  | noFactory (type : ClassName)
  | unsupportedResponse (type : Hint) (route : Option String)
  | errorNeedsArguments (type : ClassName) (route : Option String)
  | unsupportedValue (name : Option String) (value : Value)
  | emptySequence (name : Option String)
  | config (problem : ConfigProblem)
  | other (details : List Value)
  | fault (fault : Fault)
  deriving Repr, Inhabited

namespace ConfigProblem

def message : ConfigProblem → String
  | notFound path => "Configuration file not found: " ++ path
  | badMarkup reason => "Invalid YAML in configuration: " ++ reason
  | notMapping => "Configuration must be a mapping"
  | badValues _ reason => "Invalid configuration: " ++ reason
  | other message => message

end ConfigProblem

namespace Failure

def nonEmpty (text : Option String) : Option String :=
  text.filter fun text => text != ""

def onRoute (route : Option String) : String :=
  match nonEmpty route with
  | none => ""
  | some route => " (route " ++ route ++ ")"

def message : Failure → String
  | tooFewParameters rule count field =>
      let place := match nonEmpty field with
        | none => ""
        | some field => " (field '" ++ field ++ "')"
      "Validation rule " ++ rule ++ " requires at least " ++ toString count ++
        " parameters" ++ place ++ "."
  | unknownRule rule field =>
      "Unknown validation rule '" ++ rule ++ "' on field '" ++ field.getD "None" ++ "'."
  | untypedResource type hint =>
      (nonEmpty hint).getD
        ("The constructor of " ++ type.name ++ " needs a type in order to document it, " ++
          "example: def __init__(self, resource: MyModel)")
  | noFactory type =>
      "The model " ++ type.name ++ " needs a factory() hook to be documented."
  | unsupportedResponse type route =>
      "The response " ++ type.describe ++ " is not yet supported and can't be documented" ++
        onRoute route ++ "."
  | errorNeedsArguments type route =>
      "The declared error " ++ type.name ++
        " must be constructible without arguments to be documented" ++ onRoute route ++ "."
  | unsupportedValue name value =>
      "Value of type " ++ value.typeName ++ " for '" ++ name.getD "None" ++
        "' can't be documented."
  | emptySequence name =>
      "Cannot infer the item schema of empty sequence '" ++ name.getD "None" ++ "'."
  | config problem => problem.message
  | other [] => ""
  | other [detail] => detail.display
  | other details => (Value.tuple details).literal
  | fault f => f.message

end Failure
end RouteDocs
