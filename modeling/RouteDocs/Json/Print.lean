import RouteDocs.Fault
import RouteDocs.Json.Quote
import RouteDocs.Value.Basic

/-! Values as JSON text, indented by two spaces. -/

namespace RouteDocs.Json

def digitLimit : Nat := 4300

/-- Integers with too many digits are not written. -/
def integerText (n : Int) : Except Fault String :=
  let text := toString n.natAbs
  if digitLimit < text.length then .error .tooManyDigits
  else .ok (if n < 0 then "-" ++ text else text)

def realText : Double → String
  | .nan => "NaN"
  | .infinity negative => if negative then "-Infinity" else "Infinity"
  | x => x.toText

def boolText (b : Bool) : String :=
  if b then "true" else "false"

def keyText : Value → Except Fault String
  | .text s => .ok s
  | .real x => .ok (realText x)
  | .bool b => .ok (boolText b)
  | .null => .ok "null"
  | .int n => integerText n
  | .kept _ key => keyText key
  | key => .error (.badKey key.typeName)

def newLine (level : Nat) : String :=
  String.ofList ('\n' :: List.replicate (2 * level) ' ')

def block (start stop : String) (level : Nat) (lines : List String) : String :=
  if lines.isEmpty then start ++ stop
  else
    start ++ newLine (level + 1) ++ String.intercalate ("," ++ newLine (level + 1)) lines ++
      newLine level ++ stop

mutual

def printAt (level : Nat) : Value → Except Fault String
  | .null => .ok "null"
  | .bool b => .ok (boolText b)
  | .int n => integerText n
  | .real x => .ok (realText x)
  | .text s => .ok (quote false s)
  | .list items => (printItems (level + 1) items).map (block "[" "]" level)
  | .tuple items => (printItems (level + 1) items).map (block "[" "]" level)
  | .map entries => (printEntries (level + 1) entries).map (block "\x7b" "\x7d" level)
  | .kept _ value => printAt level value
  | value => .error (.notSerializable value.typeName)

def printItems (level : Nat) : List Value → Except Fault (List String)
  | [] => .ok []
  | item :: rest => do
      let text ← printAt level item
      pure (text :: (← printItems level rest))

def printEntries (level : Nat) : List (Value × Value) → Except Fault (List String)
  | [] => .ok []
  | (key, value) :: rest => do
      let key ← keyText key
      let text ← printAt level value
      pure ((quote false key ++ ": " ++ text) :: (← printEntries level rest))

end

def print (value : Value) : Except Fault String :=
  (printAt 0 value).map (· ++ "\n")

end RouteDocs.Json
