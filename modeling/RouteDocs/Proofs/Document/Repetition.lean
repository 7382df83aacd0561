import RouteDocs.Proofs.Document.Assembled
import RouteDocs.Proofs.Schema.Masking

/-!
Documents that one generator makes one after the other. Every document is made from new schemas,
but the draws go on where the one before stopped, so that only documents without drawn examples
are repeated.
-/

namespace RouteDocs

open RouteDocs.Action (after Mirrors mirrors_pure mirrors_throw mirrors_lift mirrors_report)
open RouteDocs.Schema (Node)

variable {shift : Int}

namespace Response

variable {app : App}

theorem Documents.mirrors {fails : Failure → Prop} {scope : ClassName → Prop} {samples : Nat}
    {α : Type} {step : Action α} (documents : Documents app fails scope samples step) :
    Mirrors shift Eq step step := by
  induction documents with
  | lift _ => exact mirrors_lift (.refl fun _ => rfl)
  | fail _ => exact mirrors_throw _
  | sampling => exact Action.mirrors_modify fun _ _ apart => ⟨apart.draw, apart.shapes⟩
  | bind _ _ first follows =>
      exact first.bind_ran fun a b run last ran same => same ▸ follows a run last ran
  | shape _ _ _ _ _ computes =>
      exact Action.mirrors_getOrCompute ((mirrors_report _ _).bind_eq fun _ => computes)

theorem mirrors_resolve (type : Hint) (hasBody : Bool) (route : Option String) :
    Mirrors shift Eq (resolve app type hasBody route) (resolve app type hasBody route) :=
  (anyhow_resolve type hasBody route).mirrors

theorem mirrors_resolveError (type : ClassName) (route : Option String) :
    Mirrors shift Eq (resolveError app type route) (resolveError app type route) :=
  (anyhow_resolveError type route).mirrors

end Response

/-! Documents whose examples are masked where rules may have drawn them. -/

namespace Document

def RequestBody.mask (b : RequestBody) : RequestBody := { b with schema := b.schema.mask }

def Parameter.mask (p : Parameter) : Parameter :=
  { p with sample := maskSample p.sample, schema := p.schema.mask }

def Operation.mask (o : Operation) : Operation :=
  { o with
    requestBody := o.requestBody.map RequestBody.mask
    parameters := o.parameters.map Parameter.mask }

def RouteParts.mask (parts : RouteParts) : RouteParts :=
  { parts with
    body := parts.body.map RequestBody.mask
    parameters := parts.parameters.map Parameter.mask }

def maskOperations (held : List (String × Operation)) : List (String × Operation) :=
  held.map fun entry => (entry.1, entry.2.mask)

/-- The document with the examples of bodies and parameters masked. -/
def mask (d : Document) : Document :=
  { d with paths := d.paths.map fun entry => (entry.1, maskOperations entry.2) }

theorem mask_bodyOf (fields : List Field) :
    (bodyOf? fields).map RequestBody.mask = bodyOf? (fields.map Field.mask) := by
  unfold bodyOf?
  rw [List.isEmpty_map]
  split
  · rfl
  · rw [Option.map_some, RequestBody.mask, Node.mask_ofFields, List.any_map]
    rfl

theorem mask_queryParameter (f : Field) : (queryParameter f).mask = queryParameter f.mask := by
  have schema := Node.mask_retype (some ((FieldType.named? (Node.ofField f).type).getD .string))
    (Node.ofField f)
  rw [Node.mask_ofField] at schema
  unfold queryParameter Parameter.mask
  dsimp only
  rw [schema]
  rfl

theorem mask_operationFor (route : Route) (parts : RouteParts) (method : String) :
    (operationFor route parts method).mask = operationFor route parts.mask method := rfl

theorem mask_addOperations (make : String → Operation) (methods : List String)
    (held : List (String × Operation)) :
    maskOperations (addOperations held make methods).1 =
      (addOperations (maskOperations held) (fun method => (make method).mask) methods).1 := by
  induction methods generalizing held with
  | nil => rfl
  | cons method rest induction =>
      have masked : (maskOperations held).lookup method =
          (held.lookup method).map Operation.mask := Keyed.lookup_map Operation.mask held method
      cases found : held.lookup method with
      | some known =>
          rw [found] at masked
          rw [addOperations_cons_known held make found, addOperations_cons_known _ _ masked]
          exact induction held
      | none =>
          rw [found] at masked
          rw [addOperations_cons_new held make found, addOperations_cons_new _ _ masked, induction]
          simp [maskOperations]

theorem mask_withRoute (d : Document) (route : Route) (parts : RouteParts) :
    (withRoute d route parts).mask = withRoute d.mask route parts.mask := by
  have held : (d.mask.at? (pathOf route)).getD [] =
      maskOperations ((d.at? (pathOf route)).getD []) := by
    have masked : d.mask.at? (pathOf route) = (d.at? (pathOf route)).map maskOperations :=
      Keyed.lookup_map maskOperations d.paths (pathOf route)
    rw [masked]
    cases d.at? (pathOf route) <;> rfl
  unfold withRoute
  rw [held]
  have added := mask_addOperations (operationFor route parts) route.methods
    ((d.at? (pathOf route)).getD [])
  simp only [mask_operationFor] at added
  rw [← added]
  unfold mask
  dsimp only
  rw [Keyed.put_map]

/-! What is found out about a route. -/

section

variable {app : App} {s : Rule.Setting}

theorem mirrors_readField (name : String) (rules : Rule.Given) :
    Mirrors shift (Resembles shift Field.mask) (readField s name rules) (readField s name rules) := by
  unfold readField
  refine Action.mirrors_getRun.bind fun run rival apart => ?_
  obtain ⟨reading, failed⟩ := Rule.apart_read s name rules run.draw
  rw [← apart.draw] at reading failed
  dsimp only
  rw [← failed]
  refine Mirrors.bind (Action.mirrors_modify fun _ _ between => ⟨reading.draw, between.shapes⟩) ?_
  intro _ _ _
  cases (Rule.read s name rules run.draw).2 with
  | some failure => exact mirrors_throw failure
  | none =>
      have enriched := Field.mirrors_enrich s.sampler reading.field
        (Rule.read s name rules run.draw).1.draw
      rw [← reading.draw] at enriched
      refine (Action.mirrors_liftFault enriched).bind fun first second both => ?_
      refine Mirrors.bind (Action.mirrors_modify fun _ _ between => ⟨both.2, between.shapes⟩) ?_
      exact fun _ _ _ => mirrors_pure both.1

theorem mask_keep (mark : Mark) (f : Field) : (keep mark f).mask = f.mask := by
  obtain ⟨name, type, required, nullable, bounds, literals, valid, required, starts, ends, extensions,
    pattern, format, sample, messages, rules⟩ := f
  cases sample with
  | none => rfl
  | some value => rfl

theorem mirrors_readFields (route : Nat) (inBody : Bool) (rules : FieldRules) :
    Mirrors shift (Resembles shift (List.map Field.mask)) (readFields s route inBody rules)
      (readFields s route inBody rules) := by
  refine (Action.mirrors_mapM (fun ((name, given), index) => ?_) _).mono fun _ _ each =>
    .of_forall₂ each
  refine (mirrors_readField name given).bind fun f g resembles => mirrors_pure ?_
  exact resembles.map (g := id) (keep _) (mask_keep _)

theorem mirrors_requestBody (route : Nat) (request : ClassName) :
    Mirrors shift (Resembles shift (Option.map RequestBody.mask))
      (requestBody app s route request) (requestBody app s route request) := by
  refine (mirrors_lift (.refl fun _ => rfl)).bind_eq fun rules => ?_
  refine (mirrors_readFields route true rules).bind fun fields others resembles => ?_
  exact mirrors_pure (resembles.map (g := bodyOf?) bodyOf? mask_bodyOf)

theorem mirrors_queryParameters (route : Nat) (request : ClassName) :
    Mirrors shift (Resembles shift (List.map Parameter.mask))
      (queryParameters app s route request) (queryParameters app s route request) := by
  refine (mirrors_lift (.refl fun _ => rfl)).bind_eq fun rules => ?_
  refine (mirrors_readFields route false rules).bind fun fields others resembles => ?_
  refine mirrors_pure (resembles.map (g := List.map queryParameter) (List.map queryParameter) ?_)
  intro fields
  rw [List.map_map, List.map_map]
  exact List.map_congr_left fun f _ => mask_queryParameter f

theorem mirrors_requestOf (route : Route) :
    Mirrors shift Eq (requestOf app route) (requestOf app route) := by
  refine (mirrors_lift (.refl fun _ => rfl)).bind_eq fun request => ?_
  cases request with
  | none => exact mirrors_pure rfl
  | some request =>
      exact (mirrors_lift (.refl fun _ => rfl)).bind_eq fun _ => mirrors_pure rfl

theorem mirrors_declaredErrors (route : Route) :
    Mirrors shift Eq (declaredErrors app route) (declaredErrors app route) := by
  refine Action.mirrors_foldlM (fun errors others name same => ?_) _ rfl
  subst same
  refine (mirrors_lift (.refl fun _ => rfl)).bind_eq fun found => ?_
  cases found with
  | none => exact (mirrors_report _ _).bind_eq fun _ => mirrors_pure rfl
  | some error => exact mirrors_pure rfl

theorem mirrors_asks (index : Nat) (request : Option ClassName) :
    Mirrors shift
      (fun asked others => Resembles shift (Option.map RequestBody.mask) asked.1 others.1 ∧
        Resembles shift (List.map Parameter.mask) asked.2 others.2)
      (asks app s index request) (asks app s index request) := by
  cases request with
  | none => exact mirrors_pure ⟨.refl _, .refl _⟩
  | some request =>
      refine (mirrors_requestBody index request).bind fun body other bodies => ?_
      refine (mirrors_queryParameters index request).bind fun query others queries => ?_
      exact mirrors_pure ⟨bodies, queries⟩

theorem mirrors_answers (route : Route) :
    Mirrors shift Eq (answers app route) (answers app route) := by
  have default : Mirrors shift Eq (defaultAnswer app route) (defaultAnswer app route) := by
    unfold defaultAnswer
    cases app.responseType? route with
    | none => exact mirrors_pure rfl
    | some type => exact (Response.mirrors_resolve type true _).bind_eq fun _ => mirrors_pure rfl
  refine default.bind_eq fun default => (mirrors_declaredErrors route).bind_eq fun declared => ?_
  have all : Mirrors shift Eq
      (declared.mapM fun error => Response.resolveError app error (some route.uri))
      (declared.mapM fun error => Response.resolveError app error (some route.uri)) := by
    refine (Action.mirrors_mapM (fun error => ?_) declared).mono fun _ _ same =>
      List.forall₂_eq_eq_eq ▸ same
    exact Response.mirrors_resolveError error (some route.uri)
  exact all.bind_eq fun errors => mirrors_pure rfl

theorem mirrors_partsOf (tags : List (String × Tag)) (index : Nat) (route : Route) :
    Mirrors shift (Resembles shift RouteParts.mask) (partsOf app s tags index route)
      (partsOf app s tags index route) := by
  rw [partsOf_eq]
  refine (mirrors_requestOf route).bind_eq fun request => ?_
  refine (mirrors_asks index request).bind fun asked others ⟨bodies, queries⟩ => ?_
  refine (mirrors_answers route).bind_eq fun answered => mirrors_pure ⟨?_, fun unmoved => ?_⟩
  · unfold RouteParts.mask
    dsimp only
    rw [bodies.masked, List.map_append, List.map_append, queries.masked]
  · rw [bodies.equal unmoved, queries.equal unmoved]

/-! Route by route. -/

theorem mirrors_tellDuplicates (path : String) (methods others : List String) :
    Mirrors shift Eq (tellDuplicates path methods) (tellDuplicates path others) := by
  intro run rival apart
  rw [after_tellDuplicates, after_tellDuplicates]
  exact ⟨.ok rfl, apart.draw, apart.shapes⟩

theorem mirrors_addRoute {d e : Document} (resembles : Resembles shift mask d e) (index : Nat)
    (route : Route) :
    Mirrors shift (Resembles shift mask) (addRoute app s d index route)
      (addRoute app s e index route) := by
  have tags : d.tags = e.tags := by
    show d.mask.tags = e.mask.tags
    rw [resembles.masked]
  rw [addRoute_eq, addRoute_eq, tags]
  refine (mirrors_partsOf e.tags index route).bind fun parts others same => ?_
  refine Mirrors.bind (mirrors_tellDuplicates _ _ _) fun _ _ _ => mirrors_pure ⟨?_, fun unmoved => ?_⟩
  · rw [mask_withRoute, mask_withRoute, resembles.masked, same.masked]
  · rw [resembles.equal unmoved, same.equal unmoved]

theorem mirrors_addRouteOrSkip {d e : Document} (resembles : Resembles shift mask d e)
    (routed : Route × Nat) :
    Mirrors shift (Resembles shift mask) (addRouteOrSkip app s d routed)
      (addRouteOrSkip app s e routed) := by
  obtain ⟨route, index⟩ := routed
  cases handled : route.isDynamic with
  | true =>
      rw [addRouteOrSkip_of_dynamic handled, addRouteOrSkip_of_dynamic handled]
      exact (mirrors_report _ _).bind_eq fun _ => mirrors_pure resembles
  | false =>
      rw [addRouteOrSkip_of_handled handled, addRouteOrSkip_of_handled handled]
      exact mirrors_addRoute resembles index route

end

/-! Whole documents. -/

section

variable (app : App) (source : Source) (config : Config) (now : Moment)

/-- Two documents of an application, made in whatever runs, differ in examples alone, and not at all
where the same draw comes first. Both make the same number of draws. -/
theorem mirrors_generate (run rival : Run) :
    Outcome.Mirrors (Resembles (rival.draw - run.draw) mask)
        (after (generate app source config now) run).1
        (after (generate app source config now) rival).1 ∧
      (after (generate app source config now) rival).2.draw - rival.draw =
        (after (generate app source config now) run).2.draw - run.draw := by
  have apart : ({ run with shapes := {} } : Run).Apart (rival.draw - run.draw)
      { rival with shapes := {} } := ⟨by dsimp only; omega, rfl⟩
  -- The schemas are forgotten first, so that the runs need not have known the same ones.
  let rest : Action Document := do
    let d ← app.routes.zipIdx.foldlM (addRouteOrSkip app (settingOf source config now))
      (start config)
    Action.report (.documentGenerated d.paths.length d.tags.length)
    pure d
  have mirrors : Mirrors (rival.draw - run.draw) (Resembles (rival.draw - run.draw) mask)
      rest rest := by
    refine (Action.mirrors_foldlM (fun d e routed same => mirrors_addRouteOrSkip same routed) _
      (.refl _)).bind fun d e resembles => ?_
    exact Mirrors.bind (mirrors_report _ _) fun _ _ _ => mirrors_pure resembles
  have both := mirrors _ _ apart
  refine ⟨both.1, ?_⟩
  have draws : (after (generate app source config now) rival).2.draw =
    (after (generate app source config now) run).2.draw + (rival.draw - run.draw) := both.2.draw
  omega

/-- The run in which a generator makes a document after so many others. -/
def runAfter : Nat → Run
  | 0 => startRun source config
  | count + 1 => (after (generate app source config now) (runAfter count)).2

def documentAfter (count : Nat) : Outcome Document :=
  (after (generate app source config now) (runAfter app source config now count)).1

def drawn : Int :=
  (runAfter app source config now 1).draw - (startRun source config).draw

theorem draw_runAfter (count : Nat) :
    (runAfter app source config now count).draw =
      (startRun source config).draw + count * drawn app source config now := by
  induction count with
  | zero => simp [runAfter]
  | succ count induction =>
      have same := (mirrors_generate app source config now (startRun source config)
        (runAfter app source config now count)).2
      change (runAfter app source config now (count + 1)).draw - _ =
        drawn app source config now at same
      push_cast
      rw [Int.add_mul, Int.one_mul]
      omega

/-- The document that a generator makes after some others is the one that a new generator makes whose
first draw comes after theirs. It differs from the first one in examples alone, and is equal to it if
nothing is drawn. -/
theorem generate_again (count : Nat) :
    documentAfter app source config now count =
        (after (generate app source config now)
          { startRun source config with
            draw := (startRun source config).draw + count * drawn app source config now }).1 ∧
      Outcome.Mirrors (fun first later => first.mask = later.mask)
        (after (generate app source config now) (startRun source config)).1
        (documentAfter app source config now count) ∧
      (drawn app source config now = 0 →
        documentAfter app source config now count =
          (after (generate app source config now) (startRun source config)).1) := by
  have moved := draw_runAfter app source config now count
  refine ⟨?_, ?_, fun nothing => ?_⟩
  · have mirrors := (mirrors_generate app source config now (runAfter app source config now count)
      { startRun source config with
        draw := (startRun source config).draw + count * drawn app source config now }).1
    refine (mirrors.mono fun d e resembles => ?_).eq
    exact resembles.equal (by dsimp only; omega)
  · have mirrors := (mirrors_generate app source config now (startRun source config)
      (runAfter app source config now count)).1
    exact mirrors.mono fun d e resembles => resembles.masked
  · have mirrors := (mirrors_generate app source config now (runAfter app source config now count)
      (startRun source config)).1
    refine (mirrors.mono fun d e resembles => ?_).eq
    refine resembles.equal ?_
    rw [moved, nothing]
    omega

end

/-! One route to save a user, and one that asks for nothing. -/

def saving : App :=
  { users with
    routes := [{ uri := "users", methods := ["POST"], controller := some userController
                 action := "save" }] }

def showing : App :=
  { users with
    routes := [{ uri := "users", methods := ["GET"], controller := some userController
                 action := "show" }] }

def seeded : Config := { seed := some 0 }

/-- The third document is the one of a generator that starts two draws later: its example differs,
and all else is as in the first one. Where nothing is drawn the documents are equal. -/
theorem saving_again :
    drawn saving .counting seeded noon = 1 ∧
      documentAfter saving .counting seeded noon 2 =
        (after (generate saving .counting seeded noon) { draw := 2 }).1 ∧
      (documentAfter saving .counting seeded noon 2).toOption.map bodyExamples =
        some [some "cdefghij"] ∧
      Outcome.Mirrors (fun first later => first.mask = later.mask)
        (documentAfter saving .counting seeded noon 0)
        (documentAfter saving .counting seeded noon 2) ∧
      drawn showing .counting seeded noon = 0 ∧
      documentAfter showing .counting seeded noon 2 =
        documentAfter showing .counting seeded noon 0 := by
  have one : drawn saving .counting seeded noon = 1 := by decide +kernel
  have nothing : drawn showing .counting seeded noon = 0 := by decide +kernel
  obtain ⟨later, mirrors, -⟩ := generate_again saving .counting seeded noon 2
  rw [one] at later
  exact ⟨one, later, by decide +kernel, mirrors, nothing,
    (generate_again showing .counting seeded noon 2).2.2 nothing⟩

theorem saving_changes :
    (documentAfter saving .counting seeded noon 0).toOption.map bodyExamples =
        some [some "abcdefgh"] ∧
      documentAfter saving .counting seeded noon 1 ≠
        documentAfter saving .counting seeded noon 0 := by
  refine ⟨by decide +kernel, fun same => ?_⟩
  have examples : (documentAfter saving .counting seeded noon 1).toOption.map bodyExamples =
      some [some "bcdefghi"] := by decide +kernel
  rw [same] at examples
  revert examples
  decide +kernel

end Document
end RouteDocs
