import RouteDocs.Event
import RouteDocs.Failure
import RouteDocs.Rule.Catalogue
import RouteDocs.Rule.Given

/-!
Reading the rules of a field, one after the other. A failure ends the reading; the
draws that were made and the warnings that were given until then stay.
-/

namespace RouteDocs.Rule

structure Setting where
  sampler : Sampler
  now : Moment
  overrides : Overrides := []

structure Reading where
  field : Field
  draw : Int
  warnings : List Event := []
  deriving Repr

namespace Reading

/-- Is the rule written down with the others? A required field is listed by the
object that it belongs to. -/
def isListed (name : String) : Bool :=
  name != "required"

/-- Applies a rule with its parameters. The sentence goes by the type that the
rules before gave. -/
def applyCall (s : Setting) (r : Reading) (call : Call) : Except Failure Reading := do
  let field := r.field
  match find? call.name with
  | none => throw (.unknownRule call.name (some field.name))
  | some rule =>
      if call.parameters.length < rule.arity then
        throw (.tooFewParameters call.name rule.arity (some field.name))
      else
        let sentence := sentence? s.overrides field.name call.name call.parameters field.type
        let after ← (rule.effect.apply s.sampler s.now call.parameters r.draw field).mapError
          Failure.fault
        let rules := if isListed call.name then [RuleText.text call.toToken] else []
        pure
          { r with
            field := { after with
              messages := after.messages ++ sentence.toList
              rules := after.rules ++ rules }
            draw := if rule.effect.draws then r.draw + 1 else r.draw }

def applyCustom (r : Reading) (rule : Custom) : Except Failure Reading := do
  let field ← (rule.adjustments.foldlM Adjustment.apply r.field).mapError Failure.fault
  pure { r with field := { field with rules := field.rules ++ [.object rule.label] } }

/-- Applies one rule. A blank text is no rule, and an object that says nothing
about itself is left out with a warning. -/
def step (s : Setting) (r : Reading) : Item → Except Failure Reading
  | .token text =>
      if Text.isBlankText text.toList then .ok r else r.applyCall s (Call.ofToken text)
  | .parts parts => match Call.ofParts? parts with
      | none => .error (.fault .emptyRule)
      | some call => r.applyCall s call
  | .custom rule => r.applyCustom rule
  | .foreign value =>
      .ok { r with warnings := r.warnings ++ [.ruleLeftOut r.field.name value.typeName] }

def steps (s : Setting) (r : Reading) : List Item → Reading × Option Failure
  | [] => (r, none)
  | item :: rest => match r.step s item with
      | .ok r => r.steps s rest
      | .error failure => (r, some failure)

end Reading

def read (s : Setting) (name : String) (rules : Given) (draw : Int) :
    Reading × Option Failure :=
  Reading.steps s { field := { name }, draw } rules.items

end RouteDocs.Rule
