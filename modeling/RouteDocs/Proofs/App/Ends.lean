import RouteDocs.Proofs.Response.Uncached

/-!
Only the resolver nests classes. Whatever an application does itself, it does not fail because
classes are nested too deeply.
-/

namespace RouteDocs

/-- The failure of a resolver that nests classes too deeply. -/
abbrev Failure.exhaustion : Failure := .fault .circularNesting

namespace Outcome

variable {α β : Type}

/-- Whatever comes of the step, it is not that classes were nested too deeply. -/
def Ends (outcome : Outcome α) : Prop := outcome ≠ .error .exhaustion

theorem ends_ok (a : α) : Ends (.ok a) := nofun

theorem ends_error {failure : Failure} (other : failure ≠ .exhaustion) :
    Ends (.error failure : Outcome α) :=
  fun same => other (Except.error.inj same)

theorem Ends.ne {outcome : Outcome α} (ends : Ends outcome) {failure : Failure}
    (fails : outcome = .error failure) : failure ≠ .exhaustion :=
  fun same => ends (fails.trans (congrArg Except.error same))

theorem Ends.bind {outcome : Outcome α} {next : α → Outcome β} (ends : Ends outcome)
    (follows : ∀ a, outcome = .ok a → Ends (next a)) : Ends (outcome >>= next) := by
  cases outcome with
  | error failure => exact ends_error (ends.ne rfl)
  | ok a => exact follows a rfl

theorem Ends.map {outcome : Outcome α} (ends : Ends outcome) (f : α → β) :
    Ends (outcome.map f) := by
  cases outcome with
  | error failure => exact ends_error (ends.ne rfl)
  | ok a => exact ends_ok (f a)

theorem ends_mapM {step : α → Outcome β} {items : List α} (each : ∀ a ∈ items, Ends (step a)) :
    Ends (items.mapM step) := by
  induction items with
  | nil => exact ends_ok []
  | cons head tail induction =>
      rw [List.mapM_cons]
      refine (each head List.mem_cons_self).bind fun b _ => ?_
      exact (induction fun a member => each a (List.mem_cons_of_mem _ member)).bind
        fun _ _ => ends_ok _

theorem ends_foldlM {step : β → α → Outcome β} (each : ∀ b a, Ends (step b a)) (items : List α)
    (start : β) : Ends (items.foldlM step start) := by
  induction items generalizing start with
  | nil => exact ends_ok start
  | cons head tail induction =>
      rw [List.foldlM_cons]
      exact (each start head).bind fun b _ => induction b

end Outcome

section

open Outcome

namespace Template

variable {field : String → Outcome Value}

mutual

theorem ends_fill (ends : ∀ name, Ends (field name)) (index : Int) :
    (template : Template) → Ends (template.fill field index)
  | .value v => ends_ok v
  | .field name => ends name
  | .ordinal _ => ends_ok _
  | .numbered _ => ends_ok _
  | .rendering _ => ends_ok _
  | .list items => (ends_fillItems ends index items).map _
  | .tuple items => (ends_fillItems ends index items).map _
  | .map entries => (ends_fillEntries ends index entries).map _
  | .view entries => (ends_fillEntries ends index entries).map _

theorem ends_fillItems (ends : ∀ name, Ends (field name)) (index : Int) :
    (items : List Template) → Ends (fillItems field index items)
  | [] => ends_ok []
  | item :: rest =>
      (ends_fill ends index item).bind fun _ _ =>
        (ends_fillItems ends index rest).bind fun _ _ => ends_ok _

theorem ends_fillEntries (ends : ∀ name, Ends (field name)) (index : Int) :
    (entries : List (Value × Template)) → Ends (fillEntries field index entries)
  | [] => ends_ok []
  | (_, item) :: rest =>
      (ends_fill ends index item).bind fun _ _ =>
        (ends_fillEntries ends index rest).bind fun _ _ => ends_ok _

end

end Template

variable (app : App)

theorem Entity.ends_get (e : Entity) (name : String) : Ends (e.get app name) := by
  unfold Entity.get
  split
  · exact ends_ok _
  · split
    · exact ends_ok _
    · exact ends_ok _
    · exact ends_ok _
    · exact ends_error nofun

theorem Entity.ends_samples (type : ClassName) (factory : Factory) (count : Nat) :
    Ends (Entity.samples app type factory count) := by
  have set (index : Int) (e : Entity) (entry : String × Template) : Ends (do
      let value ← entry.2.fill (e.get app) index
      pure { e with attributes := Keyed.put entry.1 value e.attributes }) :=
    (Template.ends_fill (e.ends_get app) index entry.2).bind fun _ _ => ends_ok _
  refine (ends_mapM fun i _ => ends_foldlM (set (i + 1 : Nat)) _ _).bind fun made _ => ?_
  refine ends_mapM fun e _ => ?_
  unfold Entity.configure
  split
  · exact ends_ok _
  · split
    · exact ends_ok _
    · exact ends_foldlM (set 0) _ _

namespace App

theorem ends_construct (type : ClassName) (given : Nat) : Ends (app.construct type given) := by
  unfold construct
  split
  · exact ends_ok _
  · refine Ends.bind ?_ fun _ _ => ends_ok _
    unfold Constructor.admit
    dsimp only
    split
    · exact ends_error nofun
    · split
      · exact ends_ok _
      · exact ends_error nofun

theorem ends_contentOf (resource : ClassName) (e : Entity) : Ends (app.contentOf resource e) := by
  refine (app.ends_construct resource 1).bind fun _ _ => ?_
  split
  · exact Template.ends_fill (e.ends_get app) 0 _
  · exact ends_error nofun
  · split
    · unfold entityData
      split
      · exact ends_error nofun
      · split
        · exact Template.ends_fill (e.ends_get app) 0 _
        · exact ends_error nofun
        · exact ends_ok _
    · exact ends_error nofun

theorem ends_itemsOf (collection : ClassName) (samples : List Entity) :
    Ends (app.itemsOf collection samples) := by
  refine (app.ends_construct collection 1).bind fun _ _ => ?_
  split
  · exact Template.ends_fill (Entity.ends_get app _) 0 _
  · exact ends_error nofun
  · split
    · split
      · exact ends_ok _
      · exact ends_error nofun
    · exact (ends_mapM fun e _ => app.ends_contentOf _ e).bind fun _ _ => ends_ok _

theorem ends_rawReply (type : ClassName) (sample : Option Entity) :
    Ends (app.rawReply type sample) := by
  refine (app.ends_construct type _).bind fun c _ => ?_
  exact (Template.ends_fill (Entity.ends_get app _) 0 _).bind fun _ _ => ends_ok _

end App

namespace Response

theorem ends_entityOf (resource : ClassName) : Ends (entityOf app resource) := by
  refine Ends.bind ?_ fun found _ => ?_
  · unfold entityOf?
    split
    · split
      · exact ends_ok _
      · exact ends_ok _
    · exact ends_error nofun
  · split
    · exact ends_ok _
    · exact ends_error nofun

theorem ends_make (kind : ResponseKind) (type : ClassName) (status : Value)
    (body : Option Schema.Node) : Ends (make app kind type status body) := by
  unfold make
  dsimp only
  split
  · exact ends_ok _
  · exact ends_error nofun

theorem ends_makeError (type : ClassName) (route : Option String) :
    Ends (makeError app type route) := by
  unfold makeError
  cases app.raised type [] with
  | error _ => exact ends_error nofun
  | ok error => exact ends_ok error

theorem ends_samplesOf (entity : ClassName) (count : Nat) : Ends (samplesOf app entity count) := by
  unfold samplesOf
  split
  · exact ends_error nofun
  · exact Entity.ends_samples app entity _ count

omit app in
theorem ends_underZero (entries : List (Value × Value)) : Ends (underZero entries) := by
  unfold underZero
  split
  · exact ends_ok _
  · split
    · exact ends_ok _
    · exact ends_error nofun

omit app in
theorem ends_firstItem (items : Value) : Ends (firstItem items) := by
  unfold firstItem
  cases items.bare with
  | map entries => exact ends_underZero entries
  | view entries => exact ends_underZero entries
  | list _ | tuple _ | text _ | bytes _ _ | range _ _ => exact ends_ok _
  | _ =>
      dsimp only
      split
      · exact ends_error nofun
      · exact ends_ok _

end Response

end
end RouteDocs
