import RouteDocs.App.Rendering

/-! Finding the application under a path such as `shop.web:app`. -/

namespace RouteDocs.App

/-- Is there an application behind a name? Classes and functions are called first, and
only the builder gives one. -/
def isApplication (app : App) : Binding → Except Failure Bool
  | .application => .ok true
  | .builder => .ok true
  | .type type => do
      let _ ← app.construct type 0
      if app.isA type Contract.responseName then
        let _ ← app.rawReply type none
      pure false
  | .function name parameters =>
      if parameters.isEmpty then .ok false
      else .error (.fault (.missingArguments name parameters))
  | _ => .ok false

def load (app : App) (path : String) : Except Failure Unit := do
  match Text.cut ':' path.toList with
  | ([], _) => throw (.fault (.badApplicationPath path))
  | (_, none) => throw (.fault (.badApplicationPath path))
  | (_, some []) => throw (.fault (.badApplicationPath path))
  | (module, some name) => do
      let module := String.ofList module
      let name := String.ofList name
      let names ← (app.importModule module).mapError .fault
      match names.lookup name with
      | none => throw (.fault (.moduleHasNoAttribute module name))
      | some binding =>
          if !(← app.isApplication binding) then throw (.fault (.notAnApplication path))

end RouteDocs.App
