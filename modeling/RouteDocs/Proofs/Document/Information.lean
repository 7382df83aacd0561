import RouteDocs.Proofs.Document.Assembly

/-!
The title, the version and the description of a document are those of the configuration. Nothing
else goes by them.
-/

namespace RouteDocs.Document

variable {app : App} {source : Source} {s : Rule.Setting}

/-- The document with other information about itself. -/
def withInfo (info : Info) (d : Document) : Document := { d with info }

theorem addRouteOrSkip_withInfo (info : Info) (d : Document) (routed : Route × Nat) :
    addRouteOrSkip app s (withInfo info d) routed =
      addRouteOrSkip app s d routed >>= fun made => pure (withInfo info made) := by
  obtain ⟨route, index⟩ := routed
  cases handled : route.isDynamic with
  | true =>
      rw [addRouteOrSkip_of_dynamic handled, addRouteOrSkip_of_dynamic handled, bind_assoc]
      rfl
  | false =>
      rw [addRouteOrSkip_of_handled handled, addRouteOrSkip_of_handled handled, addRoute_eq,
        addRoute_eq, bind_assoc]
      simp only [bind_assoc, pure_bind]
      rfl

theorem foldlM_withInfo (info : Info) (routed : List (Route × Nat)) (d : Document) :
    routed.foldlM (addRouteOrSkip app s) (withInfo info d) =
      routed.foldlM (addRouteOrSkip app s) d >>= fun made => pure (withInfo info made) := by
  induction routed generalizing d with
  | nil => rw [List.foldlM_nil, List.foldlM_nil, pure_bind]
  | cons first rest induction =>
      rw [List.foldlM_cons, List.foldlM_cons, addRouteOrSkip_withInfo, bind_assoc, bind_assoc]
      simp only [pure_bind]
      exact bind_congr fun made => induction made

/-- A title and a version change nothing else about the document. -/
theorem generate_withInfo (config : Config) (title version : String) (now : Moment) :
    generate app source { config with title, version } now =
      generate app source config now >>= fun d =>
        pure (withInfo { title, version, description := config.description } d) := by
  unfold generate
  simp only [bind_assoc, pure_bind]
  refine bind_congr fun _ => ?_
  have started : start { config with title, version } =
      withInfo { title, version, description := config.description } (start config) := rfl
  rw [started]
  change List.foldlM (addRouteOrSkip app (settingOf source config now)) _ _ >>= _ = _
  rw [foldlM_withInfo, bind_assoc]
  simp only [pure_bind]
  rfl

theorem info_of_generate {config : Config} {now : Moment} {run last : Run} {d : Document}
    (generated : Action.after (generate app source config now) run = (.ok d, last)) :
    d.info = (start config).info := by
  have same := @generate_withInfo app source config config.title config.version now
  change generate app source config now = _ at same
  rw [same] at generated
  obtain ⟨made, between, _, gives⟩ := Action.after_bind_ok generated
  cases gives
  rfl

end RouteDocs.Document
