import Mathlib.Data.List.Nodup
import RouteDocs.Proofs.Keyed
import RouteDocs.Proofs.Response.Envelope
import RouteDocs.Proofs.Response.Steps

/-!
How often schemas are computed and samples are made. No class is computed twice in a run, and
none needs more than one sample for its schema; what is beyond that goes to raw responses.
-/

namespace RouteDocs.Response

open Schema (Node)
open RouteDocs.Action (after)

/-- The classes whose schemas a run remembers, in the order in which they were stored. -/
def remembered (run : Run) : List ClassName := run.shapes.entries.map Prod.fst

theorem contains_iff_remembered {run : Run} {type : ClassName} :
    run.shapes.contains type = true ↔ type ∈ remembered run := by
  rw [ShapeCache.contains, ShapeCache.find?_eq_lookup]
  exact Keyed.lookup_isSome_iff

theorem remembered_put {run : Run} {type : ClassName} (new : type ∉ remembered run) (node : Node) :
    remembered { run with shapes := run.shapes.put type node } = remembered run ++ [type] := by
  show (Keyed.put type node run.shapes.entries).map Prod.fst = _
  rw [Keyed.keys_put, if_neg fun known => new (Keyed.lookup_isSome_iff.mp known)]
  rfl

/-- Between two runs some classes were added, each of them computed once, and samples were made
for some of them and so often besides. -/
structure Adds (scope : ClassName → Prop) (besides : Nat) (run last : Run)
    (added computed : List ClassName) (made : Nat) : Prop where
  grown : remembered last = remembered run ++ added
  distinct : added.Nodup
  new : ∀ type ∈ added, type ∉ remembered run
  within : ∀ type ∈ added, scope type
  once : computed.Perm added
  reported : last.events = run.events ++ computed.map fun type => .shapeComputed type.name
  few : made ≤ added.length
  sampled : last.samplings = run.samplings + made + besides

section

variable {scope inner : ClassName → Prop} {besides early late own : Nat} {run between last : Run}

theorem adds_nothing (scope : ClassName → Prop) (run : Run) : Adds scope 0 run run [] [] 0 where
  grown := (List.append_nil _).symm
  distinct := List.nodup_nil
  new _ member := nomatch member
  within _ member := nomatch member
  once := .nil
  reported := (List.append_nil _).symm
  few := Nat.le_refl 0
  sampled := rfl

theorem Adds.trans {added more computed others : List ClassName} {made further : Nat}
    (first : Adds scope early run between added computed made)
    (second : Adds scope late between last more others further) :
    Adds scope (early + late) run last (added ++ more) (computed ++ others) (made + further) where
  grown := by rw [second.grown, first.grown, List.append_assoc]
  distinct := by
    refine List.nodup_append.mpr ⟨first.distinct, second.distinct, fun type member other also => ?_⟩
    rintro rfl
    apply second.new type also
    rw [first.grown]
    exact List.mem_append_right _ member
  new type member := by
    rcases List.mem_append.mp member with before | behind
    · exact first.new type before
    · intro known
      apply second.new type behind
      rw [first.grown]
      exact List.mem_append_left _ known
  within type member := (List.mem_append.mp member).elim (first.within type) (second.within type)
  once := first.once.append second.once
  reported := by rw [second.reported, first.reported, List.map_append, List.append_assoc]
  few := by
    rw [List.length_append]
    exact Nat.add_le_add first.few second.few
  sampled := by
    rw [second.sampled, first.sampled]
    omega

theorem Adds.store {type : ClassName} {added computed : List ClassName} {made : Nat}
    (adds : Adds inner own { run with events := run.events ++ [.shapeComputed type.name] } between
      added computed made)
    (new : type ∉ remembered run) (apart : ¬ inner type) (asked : scope type)
    (within : ∀ other, inner other → scope other) (single : own ≤ 1) (node : Node) :
    Adds scope 0 run { between with shapes := between.shapes.put type node } (added ++ [type])
      (type :: computed) (made + own) where
  grown := by
    have grown : remembered between = remembered run ++ added := adds.grown
    rw [remembered_put ?_ node, grown, List.append_assoc]
    -- The class was not there before, and its own computation did not come back to it.
    rw [grown]
    intro known
    rcases List.mem_append.mp known with before | inside
    · exact new before
    · exact apart (adds.within type inside)
  distinct := by
    refine List.nodup_append.mpr ⟨adds.distinct, List.nodup_singleton type, ?_⟩
    rintro other member _ here rfl
    rw [List.mem_singleton] at here
    exact apart (here ▸ adds.within other member)
  new other member := by
    rcases List.mem_append.mp member with inside | here
    · exact adds.new other inside
    · exact (List.mem_singleton.mp here) ▸ new
  within other member := by
    rcases List.mem_append.mp member with inside | here
    · exact within other (adds.within other inside)
    · exact (List.mem_singleton.mp here) ▸ asked
  once := (adds.once.cons type).trans (List.perm_append_singleton type added).symm
  reported := by
    show between.events = _
    rw [adds.reported, List.map_cons, List.append_assoc]
    rfl
  few := by
    rw [List.length_append, List.length_singleton]
    exact Nat.add_le_add adds.few single
  sampled := by
    show between.samplings = _
    rw [adds.sampled]
    exact Nat.add_assoc run.samplings made own

end

/-- Every step of a resolver that does not fail computes each of the classes that it adds once. -/
theorem Documents.adds {app : App} (regular : Regular app) {fails : Failure → Prop}
    {scope : ClassName → Prop} {besides : Nat} {α : Type} {step : Action α}
    (documents : Documents app fails scope besides step) {run last : Run} {a : α}
    (ran : after step run = (.ok a, last)) :
    ∃ added computed made, Adds scope besides run last added computed made := by
  induction documents generalizing run last with
  | lift _ =>
      rw [Action.after_lift] at ran
      cases ran
      exact ⟨[], [], 0, adds_nothing _ _⟩
  | fail _ => cases ran
  | sampling =>
      cases ran
      exact ⟨[], [], 0, { adds_nothing _ _ with sampled := rfl }⟩
  | bind _ _ first follows =>
      obtain ⟨b, between, early, late⟩ := Action.after_bind_ok ran
      obtain ⟨_, _, _, before⟩ := first early
      obtain ⟨_, _, _, behind⟩ := follows b run between early late
      exact ⟨_, _, _, before.trans behind⟩
  | @shape _ _ _ type compute asked within once _ fits computes =>
      rcases after_shapeOf_ok ran with ⟨_, rfl⟩ | ⟨found, between, computed, rfl⟩
      · exact ⟨[], [], 0, adds_nothing _ _⟩
      · have new : type ∉ remembered run := by
          rw [← contains_iff_remembered, ShapeCache.contains, found]
          exact Bool.false_ne_true
        obtain ⟨_, _, _, adds⟩ := computes computed
        exact ⟨_, _, _, adds.store new (fits regular).apart asked within once _⟩

/-! The resource of a collection. -/

/-- Where a collection is remembered, its resource is. -/
def Collected (app : App) (run : Run) : Prop :=
  ∀ collection resource, app.isCollection collection = true →
    app.collected? collection = some resource → run.shapes.contains collection = true →
      run.shapes.contains resource = true

theorem contains_put {run : Run} {type other : ClassName} {node : Node} :
    (run.shapes.put type node).contains other = true ↔
      other = type ∨ run.shapes.contains other = true := by
  rw [ShapeCache.contains, ShapeCache.contains, ShapeCache.find?_put]
  by_cases here : other = type
  · subst here
    simp
  · rw [beq_false_of_ne here]
    simp [here]

theorem Documents.collected {app : App} (regular : Regular app) {fails : Failure → Prop}
    {scope : ClassName → Prop} {besides : Nat} {α : Type} {step : Action α}
    (documents : Documents app fails scope besides step) {run last : Run} {a : α}
    (ran : after step run = (.ok a, last)) (before : Collected app run) : Collected app last := by
  induction documents generalizing run last with
  | lift _ =>
      rw [Action.after_lift] at ran
      cases ran
      exact before
  | fail _ => cases ran
  | sampling =>
      cases ran
      exact before
  | bind _ _ first follows =>
      obtain ⟨b, between, early, late⟩ := Action.after_bind_ok ran
      exact follows b run between early late (first early before)
  | @shape _ _ _ type compute _ _ _ _ fits computes =>
      rcases after_shapeOf_ok ran with ⟨_, rfl⟩ | ⟨_, between, computed, rfl⟩
      · exact before
      · intro collection resource isCollection collects known
        apply contains_put.mpr
        rcases contains_put.mp known with here | there
        · subst here
          -- Its resource is there, or the computation would not have come to its end.
          exact .inr ((fits regular).collected resource isCollection collects _ _ _ computed)
        · exact .inr (computes computed before collection resource isCollection collects there)

/-! The schemas themselves. -/

theorem name_of_shape {app : App} {type : ClassName} {node : Node}
    (computed : shape app type = .ok node) : node.name = none := by
  unfold shape shapeAlone at computed
  split at computed
  · unfold collectionAlone at computed
    split at computed
    · cases computed
    · split at computed
      · cases computed
      · obtain ⟨items, _, computed⟩ := Outcome.ok_of_bind computed
        obtain ⟨first?, _, computed⟩ := Outcome.ok_of_bind computed
        obtain ⟨inferred, _, computed⟩ := Outcome.ok_of_bind computed
        cases computed
        rfl
  · obtain ⟨content, _, inferred⟩ := Outcome.ok_of_bind computed
    have named : (Node.inferWith (convertAlone app (app.classes.length + 1)) none content).toOption =
        _ := Node.toOption_inferWith (convertAlone_name _) none content
    rw [inferred] at named
    exact congrArg Node.name (Option.some.inj named)

theorem entityOf_of_collection {app : App} {collection resource : ClassName} {node : Node}
    (isCollection : app.isCollection collection = true)
    (collects : app.collected? collection = some resource)
    (computed : shape app collection = .ok node) : ∃ entity, entityOf app resource = .ok entity := by
  unfold shape shapeAlone at computed
  rw [isCollection, if_pos rfl, collectionAlone_of_collects isCollection collects] at computed
  obtain ⟨items, lists, _⟩ := Outcome.ok_of_bind computed
  obtain ⟨entity, shows, _⟩ := Outcome.ok_of_bind lists
  exact ⟨entity, shows⟩

/-! One call after the other. -/

/-- What the calls that a new resolver could all answer leave behind. -/
structure Once (app : App) (calls : List Call) (run last : Run) : Prop where
  distinct : (remembered last).Nodup
  /-- Each computation is reported; there was one for each class that is remembered. -/
  computed : ∃ computed : List ClassName, computed.Perm (remembered last) ∧
    last.events = run.events ++ computed.map fun type => .shapeComputed type.name
  sampled : ∃ made ≤ last.shapes.size,
    last.samplings = run.samplings + made + (calls.map (Call.rawSamples app)).sum
  /-- Once a collection is documented, so is its resource. -/
  collected : ∀ collection resource, app.isCollection collection = true →
    app.collected? collection = some resource → last.shapes.contains collection = true →
      ∃ node, after (resourceShape app (nested app) resource) last = (.ok node, last)
  nameless : ∀ type node, last.shapes.find? type = some node → node.name = none

section

variable {app : App} (regular : Regular app)
include regular

theorem settled_calls (calls : List Call) : Settled app (calls.mapM (Call.perform app)) := by
  induction calls with
  | nil => exact settled_pure []
  | cons call rest induction =>
      rw [List.mapM_cons]
      exact (settled_perform regular.uniform call).bind fun _ => induction.bind fun _ => settled_pure _

theorem once_of_calls {calls : List Call} {run last : Run}
    {results : List (ResolvedResponse ⊕ Node)} (fresh : run.shapes.entries = [])
    (answered : after (calls.mapM (Call.perform app)) run = (.ok results, last)) :
    Once app calls run last := by
  have documents : Documents app (fun _ => True) (fun _ => True) _
      (calls.mapM (Call.perform app)) :=
    documents_calls (fun _ _ => trivial) fun _ _ _ _ => .inl trivial
  have nothing : remembered run = [] := by rw [remembered, fresh]; rfl
  obtain ⟨added, computed, made, adds⟩ := documents.adds regular answered
  have all : remembered last = added := by rw [adds.grown, nothing, List.nil_append]
  have none (type : ClassName) : run.shapes.contains type ≠ true := by
    rw [Ne, contains_iff_remembered, nothing]
    exact List.not_mem_nil
  have complete : Collected app last := documents.collected regular answered
    fun collection _ _ _ known => absurd known (none collection)
  have sound : Sound app last := by
    obtain ⟨outcome, gives⟩ := settled_calls regular calls
    have behind := (gives run (sound_of_empty fresh)).2
    rwa [answered] at behind
  refine ⟨all ▸ adds.distinct, ⟨computed, all ▸ adds.once, adds.reported⟩, ⟨made, ?_, adds.sampled⟩,
    ?_, fun type node found => name_of_shape (sound type node found)⟩
  · have size : last.shapes.size = added.length := by
      rw [← all, remembered, List.length_map]
      rfl
    exact size ▸ adds.few
  · intro collection resource isCollection collects known
    obtain ⟨list, found⟩ := Option.isSome_iff_exists.mp known
    obtain ⟨entity, shows⟩ := entityOf_of_collection isCollection collects (sound collection list found)
    have also := complete collection resource isCollection collects known
    obtain ⟨node, held⟩ := Option.isSome_iff_exists.mp also
    refine ⟨node, ?_⟩
    unfold resourceShape
    rw [Action.after_bind, Action.after_lift, shows]
    exact after_shapeOf_known held

end

/-! A clinic that documents its visits, and answers with the note of a visit as it is. -/

def visitNote : ClassName := ⟨"clinic", "VisitNote"⟩
def visitView : ClassName := ⟨"clinic", "VisitView"⟩
def visit : ClassName := ⟨"clinic", "Visit"⟩

def clinic : App where
  module := "clinic"
  ownClasses :=
    [{ name := visitNote, parent := some Contract.responseName
       constructor := some
         { parameters := [{ name := "visit", hint := some "Visit" }]
           data := .map [(.text "view", .rendering visitView)] } },
     { name := visitView, parent := some Contract.resourceName, model := some (some visit) },
     { name := visit, factory := some { fields := [("day", .ordinal 0)] } }]
  names := [("Visit", .type visit)]

theorem names_clinic {type : ClassName} (own : type ∈ clinic.ownClasses.map Class.name) :
    type = visitNote ∨ type = visitView ∨ type = visit := by
  simpa [clinic] using own

theorem isCollection_of_clinic {type : ClassName} (isCollection : clinic.isCollection type = true) :
    type = Contract.collectionName := by
  rcases App.own_of_isCollection isCollection with own | contract
  · rcases names_clinic own with rfl | rfl | rfl <;> cases isCollection
  · exact contract

theorem content_of_clinic {type : ClassName} {content : Value}
    (shows : shownBy clinic type = .ok content) : content = .map [(.text "day", .int 1)] := by
  obtain ⟨entity, found⟩ := entityOf_of_shownBy shows
  rcases App.own_of_isResource (isResource_of_entityOf found) with own | rfl
  · rcases names_clinic own with rfl | rfl | rfl <;> cases shows
    rfl
  · cases shows

theorem not_nests_clinic {outer inner : ClassName} : ¬ Nests clinic outer inner := by
  intro nests
  cases nests with
  | shown shows inside =>
      rw [content_of_clinic shows] at inside
      cases inside with
      | map member inside =>
          cases List.mem_singleton.mp member
          cases inside
  | listed isCollection collects _ _ | collected isCollection collects =>
      cases isCollection_of_clinic isCollection
      cases collects

theorem regular_clinic : Regular clinic where
  keepsContract := by unfold App.KeepsContract; decide
  inherits type isCollection := by
    cases isCollection_of_clinic isCollection
    rfl
  acyclic := @acyclic_of_falls clinic (fun _ => 0) fun nests => absurd nests not_nests_clinic

def visits : List Call :=
  [.resolve (.type visitNote) true none, .resource visitView, .resolve (.type visitView) true none,
   .resolve (.type visitNote) false none]

/-- Two notes and one view take three samples. -/
theorem once_visits : Regular clinic ∧ ({} : Run).shapes.entries = [] ∧
    ∃ results last, after (visits.mapM (Call.perform clinic)) {} = (.ok results, last) ∧
      last.samplings = 3 ∧ (visits.map (Call.rawSamples clinic)).sum = 2 ∧
        remembered last = [visitView] ∧ Once clinic visits {} last := by
  have succeeds : (after (visits.mapM (Call.perform clinic)) {}).1.isOk = true := by decide +kernel
  have made : (after (visits.mapM (Call.perform clinic)) {}).2.samplings = 3 := by decide +kernel
  have held : remembered (after (visits.mapM (Call.perform clinic)) {}).2 = [visitView] := by
    decide +kernel
  cases answered : after (visits.mapM (Call.perform clinic)) {} with
  | mk result last =>
      rw [answered] at succeeds made held
      cases result with
      | error failure => cases succeeds
      | ok results =>
          exact ⟨regular_clinic, rfl, results, last, rfl, made, by decide +kernel, held,
            once_of_calls regular_clinic rfl answered⟩

end RouteDocs.Response
