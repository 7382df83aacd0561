import RouteDocs.Event
import RouteDocs.Failure
import RouteDocs.Response.ShapeCache

/-!
What a run of the generator goes by and changes. A step that fails keeps what it
changed until then.
-/

namespace RouteDocs

structure Run where
  draw : Int := 0
  samplings : Nat := 0
  shapes : ShapeCache ClassName := {}
  events : List Event := []

abbrev Action := ExceptT Failure (StateM Run)

namespace Action

instance : MonadStateOf (ShapeCache ClassName) Action where
  get := do pure (← getThe Run).shapes
  set shapes := modifyThe Run fun run => { run with shapes }
  modifyGet f := modifyGetThe Run fun run =>
    let (a, shapes) := f run.shapes
    (a, { run with shapes })

def report (event : Event) : Action Unit :=
  modifyThe Run fun run => { run with events := run.events ++ [event] }

def lift {α : Type} : Except Failure α → Action α
  | .ok a => pure a
  | .error failure => throw failure

def liftFault {α : Type} (result : Except Fault α) : Action α :=
  lift (result.mapError Failure.fault)

end Action
end RouteDocs
