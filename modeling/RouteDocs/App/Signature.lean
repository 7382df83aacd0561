import RouteDocs.App.Basic

/-!
Types that an application declares. A declaration is the name of a type, such a name in
quotes, which may not mean anything yet, or a composition of types.
-/

namespace RouteDocs.App

def unquote? (source : List Char) : Option (List Char) :=
  match source with
  | mark :: rest =>
      if (mark = '\x27' ∨ mark = '\x22') ∧ rest.getLast? = some mark then some rest.dropLast
      else none
  | [] => none

def alternatives (source : List Char) : List (List Char) :=
  (Text.splitAt '|' source).map Text.trimChars

def hintOf : Binding → Hint
  | .type name => .type name
  | .value value => .value value
  | .module _ => .value (.object "module")
  | .function .. => .value (.object "function")
  | .application => .value (.object "Application")
  | .builder => .value (.object "function")

def describeInner : Hint → String
  | .type name =>
      if name.module = Builtin.module then name.name else name.module ++ "." ++ name.name
  | .value value => value.literal
  | .optional text => text
  | .listOf text => text

/-- The hint that a name or a composition of names stands for; none if a name means
nothing. -/
def evaluateHint? (app : App) (source : List Char) : Option Hint :=
  let single (source : List Char) : Option Hint :=
    match Text.dropStart? "list[".toList source with
    | some rest =>
        if rest.getLast? = some ']' then
          (app.resolve? (String.ofList rest.dropLast)).map fun found =>
            .listOf ("list[" ++ describeInner (hintOf found) ++ "]")
        else none
    | none => (app.resolve? (String.ofList source)).map hintOf
  match alternatives source with
  | [_] => single source
  | parts =>
      (parts.mapM single).map fun hints =>
        .optional (Text.join " | " (hints.map describeInner))

def isUndefined (app : App) (source : String) : Bool :=
  match unquote? source.toList with
  | none => false
  | some inner => (app.evaluateHint? inner).isNone

/-- The hint as it stands, where quoted names remain texts. -/
def rawHint (app : App) (source : String) : Hint :=
  match unquote? source.toList with
  | some inner => .value (.text (String.ofList inner))
  | none => (app.evaluateHint? source.toList).getD (.value (.text source))

def resolvedHint (app : App) (source : String) : Hint :=
  match unquote? source.toList with
  | some inner => (app.evaluateHint? inner).getD (.value (.text (String.ofList inner)))
  | none => app.rawHint source

/-- How the hints of a function are read: a quoted name that means nothing leaves all
its hints as they stand. -/
def hintReader (app : App) (m : Method) : String → Hint :=
  let sources := m.parameters.filterMap Parameter.hint ++ m.returns.toList
  if sources.any app.isUndefined then app.rawHint else app.resolvedHint

def firstClass? (app : App) (m : Method) (accept : ClassName → Bool) : Option ClassName :=
  let read := app.hintReader m
  m.parameters.findSome? fun p =>
    ((p.hint.map read).bind Hint.class?).filter accept

/-- The entity that a constructor's parameters tell of: the first declared class that
is no builtin one. -/
def annotatedEntity? (app : App) (type : ClassName) : Option ClassName :=
  match app.constructor? type with
  | none => none
  | some (_, c) =>
      app.firstClass? { parameters := c.parameters : Method } fun name =>
        name != Contract.anyName && name.module != Builtin.module

end RouteDocs.App
