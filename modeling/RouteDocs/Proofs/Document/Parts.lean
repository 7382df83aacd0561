import RouteDocs.Document.Assemble

/-!
What is found out about a route, in three steps: its request, what the request asks for, and
what is answered.
-/

namespace RouteDocs.Document

variable {app : App} {s : Rule.Setting}

def asks (app : App) (s : Rule.Setting) (index : Nat) :
    Option ClassName → Action (Option RequestBody × List Parameter)
  | none => pure (none, [])
  | some request => do
      let body ← requestBody app s index request
      let query ← queryParameters app s index request
      pure (body, query)

def defaultAnswer (app : App) (route : Route) : Action (Option ResolvedResponse) :=
  match app.responseType? route with
  | none => pure none
  | some type => do pure (some (← Response.resolve app type true (some route.uri)))

def answers (app : App) (route : Route) :
    Action (Option ResolvedResponse × List ResolvedResponse) := do
  let default ← defaultAnswer app route
  let declared ← declaredErrors app route
  let errors ← declared.mapM fun error => Response.resolveError app error (some route.uri)
  pure (default, errors)

theorem partsOf_eq (tags : List (String × Tag)) (index : Nat) (route : Route) :
    partsOf app s tags index route = (do
      let request ← requestOf app route
      let asked ← asks app s index request
      let answered ← answers app route
      pure
        { docstring := app.docstring route, body := asked.1
          parameters := pathParameters route.uri ++ asked.2
          tag := ((addTag tags route).lookup (tagKey route)).getD (tagFor route)
          default := answered.1, errors := answered.2 }) := by
  unfold partsOf
  refine bind_congr fun request => ?_
  cases request with
  | none =>
      cases type : app.responseType? route <;>
        simp only [asks, answers, defaultAnswer, type, bind_assoc, pure_bind]
  | some request =>
      cases type : app.responseType? route <;>
        simp only [asks, answers, defaultAnswer, type, bind_assoc, pure_bind]

end RouteDocs.Document
