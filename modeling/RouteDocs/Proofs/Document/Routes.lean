import RouteDocs.Document.Assemble

/-!
What is found out about a route goes by the classes and the names of the application, and
not by the routes that are registered with it.
-/

namespace RouteDocs

variable (app : App) (routes : List Route)

namespace App

theorem evaluateHint_routes : evaluateHint? { app with routes } = app.evaluateHint? := rfl

theorem isUndefined_routes : isUndefined { app with routes } = app.isUndefined := rfl

theorem rawHint_routes : rawHint { app with routes } = app.rawHint := rfl

theorem resolvedHint_routes : resolvedHint { app with routes } = app.resolvedHint := by
  unfold resolvedHint
  rw [evaluateHint_routes, rawHint_routes]

theorem hintReader_routes : hintReader { app with routes } = app.hintReader := by
  unfold hintReader
  rw [isUndefined_routes, rawHint_routes, resolvedHint_routes]

theorem firstClass_routes : firstClass? { app with routes } = app.firstClass? := by
  unfold firstClass?
  rw [hintReader_routes]

theorem annotatedEntity_routes : annotatedEntity? { app with routes } = app.annotatedEntity? := by
  unfold annotatedEntity?
  rw [firstClass_routes]
  rfl

theorem requestType_routes : requestType? { app with routes } = app.requestType? := by
  unfold requestType?
  rw [firstClass_routes]
  rfl

theorem responseType_routes : responseType? { app with routes } = app.responseType? := by
  unfold responseType?
  rw [hintReader_routes]
  rfl

end App

namespace Response

theorem entityOf_routes : entityOf { app with routes } = entityOf app := by
  unfold entityOf entityOf?
  rw [App.annotatedEntity_routes]
  rfl

theorem resourceShape_routes : resourceShape { app with routes } = resourceShape app := by
  unfold resourceShape
  rw [entityOf_routes]
  rfl

theorem collectionShape_routes : collectionShape { app with routes } = collectionShape app := by
  unfold collectionShape
  rw [entityOf_routes, resourceShape_routes]
  rfl

theorem convert_routes (depth : Nat) : convert { app with routes } depth = convert app depth := by
  induction depth with
  | zero => rfl
  | succ depth induction =>
      funext name type
      rw [convert, convert, collectionShape_routes, resourceShape_routes, induction]
      rfl

theorem nested_routes : nested { app with routes } = nested app :=
  convert_routes app routes _

theorem bodyOf_routes : bodyOf { app with routes } = bodyOf app := by
  unfold bodyOf
  rw [nested_routes]

theorem resolveRaw_routes : resolveRaw { app with routes } = resolveRaw app := by
  unfold resolveRaw
  rw [App.annotatedEntity_routes, bodyOf_routes]
  rfl

theorem resolveClass_routes : resolveClass { app with routes } = resolveClass app := by
  unfold resolveClass
  rw [collectionShape_routes, resourceShape_routes, nested_routes, resolveRaw_routes]
  rfl

theorem resolve_routes : resolve { app with routes } = resolve app := by
  unfold resolve
  rw [resolveClass_routes]

theorem resolveError_routes : resolveError { app with routes } = resolveError app := by
  unfold resolveError
  rw [bodyOf_routes]
  rfl

end Response

namespace Document

theorem requestOf_routes : requestOf { app with routes } = requestOf app := by
  unfold requestOf
  rw [App.requestType_routes]
  rfl

theorem partsOf_routes : partsOf { app with routes } = partsOf app := by
  unfold partsOf
  rw [requestOf_routes, App.responseType_routes, Response.resolve_routes,
    Response.resolveError_routes]
  rfl

theorem addRouteOrSkip_routes : addRouteOrSkip { app with routes } = addRouteOrSkip app := by
  unfold addRouteOrSkip addRoute
  rw [partsOf_routes]

end Document
end RouteDocs
