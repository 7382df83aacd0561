import RouteDocs.Proofs.Response.Nesting

/-! The first sample is the same, however many are made and whoever shows it. -/

namespace RouteDocs.Response

open Schema (Node)
section

variable {α β : Type}

theorem ok_of_mapM_cons {step : α → Outcome β} {a : α} {rest : List α} {made : List β}
    (gives : (a :: rest).mapM step = .ok made) :
    ∃ b others, step a = .ok b ∧ rest.mapM step = .ok others ∧ made = b :: others := by
  rw [List.mapM_cons] at gives
  obtain ⟨b, first, gives⟩ := Outcome.ok_of_bind gives
  obtain ⟨others, following, gives⟩ := Outcome.ok_of_bind gives
  cases gives
  exact ⟨b, others, first, following, rfl⟩

theorem ok_of_mapM_ok_cons {step : α → Outcome β} {items : List α} {b : β} {others : List β}
    (gives : items.mapM step = .ok (b :: others)) :
    ∃ a rest, items = a :: rest ∧ step a = .ok b := by
  cases items with
  | nil => cases gives
  | cons a rest =>
      obtain ⟨made, following, first, _, same⟩ := ok_of_mapM_cons gives
      cases same
      exact ⟨a, rest, rfl, first⟩

end

theorem range_eq_cons {count first : Nat} {rest : List Nat}
    (range : List.range count = first :: rest) : first = 0 := by
  cases count with
  | zero => cases range
  | succ count =>
      rw [List.range_succ_eq_map] at range
      exact (List.cons.inj range).1.symm

variable {app : App}

theorem samples_one {entity : ClassName} {factory : Factory} {count : Nat} {first : Entity}
    {rest : List Entity} (made : Entity.samples app entity factory count = .ok (first :: rest)) :
    Entity.samples app entity factory 1 = .ok [first] := by
  obtain ⟨built, builds, configures⟩ := Outcome.ok_of_bind made
  obtain ⟨bare, others, rfl, configured⟩ := ok_of_mapM_ok_cons configures
  obtain ⟨index, later, range, build⟩ := ok_of_mapM_ok_cons builds
  have zero := range_eq_cons range
  subst zero
  have one : Entity.sampleCount factory.kind 1 = 1 := by
    cases kind : factory.kind with
    | empty =>
        rw [kind] at range
        cases range
    | _ => rfl
  have builds : (List.range 1).mapM (fun i : Nat => Entity.build app entity factory (i + 1)) =
      Except.ok [bare] := by
    rw [List.range_one, List.mapM_cons, build]
    rfl
  unfold Entity.samples
  rw [one, builds]
  show [bare].mapM (Entity.configure app) = _
  rw [List.mapM_cons, configured]
  rfl

theorem firstOf_of_samples {entity : ClassName} {count : Nat} {first : Entity}
    {rest : List Entity} (made : samplesOf app entity count = .ok (first :: rest)) :
    firstOf app entity = .ok first := by
  unfold firstOf samplesOf
  unfold samplesOf at made
  cases hook : Entity.factory? app entity with
  | none =>
      rw [hook] at made
      cases made
  | some factory =>
      rw [hook] at made
      dsimp only at made ⊢
      rw [samples_one made]
      rfl

theorem items_of_itemsOf {collection resource : ClassName} {samples : List Entity} {items : Value}
    (inherits : Class.find? "to_list" Class.items (app.lineage collection) = none)
    (collects : app.collected? collection = some resource)
    (lists : app.itemsOf collection samples = .ok items) :
    ∃ contents, samples.mapM (app.contentOf resource) = .ok contents ∧ items = .list contents := by
  unfold App.itemsOf at lists
  obtain ⟨_, _, lists⟩ := Outcome.ok_of_bind lists
  rw [inherits, collects] at lists
  obtain ⟨contents, shows, lists⟩ := Outcome.ok_of_bind lists
  cases lists
  exact ⟨contents, shows, rfl⟩

/-- A collection that shows its items as their resource does starts with the sample of
the resource. -/
theorem shownBy_of_listedBy {collection resource : ClassName} {items first : Value}
    (inherits : Class.find? "to_list" Class.items (app.lineage collection) = none)
    (collects : app.collected? collection = some resource)
    (lists : listedBy app collection resource = .ok items)
    (found : firstItem items = .ok (some first)) : shownBy app resource = .ok first := by
  obtain ⟨entity, shows, lists⟩ := Outcome.ok_of_bind lists
  obtain ⟨samples, made, lists⟩ := Outcome.ok_of_bind lists
  obtain ⟨contents, renders, rfl⟩ :=
    items_of_itemsOf inherits collects lists
  cases contents with
  | nil => cases found
  | cons content others =>
      cases found
      obtain ⟨sample, rest, rfl, content⟩ := ok_of_mapM_ok_cons renders
      unfold shownBy
      rw [shows]
      show firstOf app entity >>= _ = _
      rw [firstOf_of_samples made]
      exact content

end RouteDocs.Response
