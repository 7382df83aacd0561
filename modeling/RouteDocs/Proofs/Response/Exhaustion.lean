import RouteDocs.Proofs.Response.Once

/-!
When a resolver comes to no end. It follows resources into resources, and stores a class only when
all inside it is done; so nothing that is remembered stops it on a way that comes back.
-/

namespace RouteDocs.Response

open Schema (Node)
open Relation (TransGen ReflTransGen)
open RouteDocs.Action (after)

variable {app : App}

theorem Documents.fails {fails : Failure → Prop} {scope : ClassName → Prop} {samples : Nat}
    {α : Type} {step : Action α} (documents : Documents app fails scope samples step)
    {run last : Run} {failure : Failure} (failed : after step run = (.error failure, last)) :
    fails failure := by
  induction documents generalizing run last with
  | lift allowed =>
      rw [Action.after_lift] at failed
      exact allowed failure (congrArg Prod.fst failed)
  | fail allowed =>
      cases failed
      exact allowed
  | sampling => cases failed
  | @bind _ _ _ _ _ step _ _ _ first follows =>
      rw [Action.after_bind] at failed
      cases ran : after step run with
      | mk result between =>
          rw [ran] at failed
          cases result with
          | error early =>
              cases failed
              exact first ran
          | ok a => exact follows a run between ran failed
  | shape _ _ _ _ _ computes => exact computes (after_shapeOf_error failed).2

/-- Where no class that an answer opens leads back to itself, a resolver comes to an end, whatever
the run remembers. -/
theorem ends_resolveClass {type : ClassName}
    (ends : ∀ root, Opens app type root → ¬ Circular (Nests app) root) (route : Option String)
    (run : Run) : (after (resolveClass app type route) run).1 ≠ .error .exhaustion := by
  have bounded (root : ClassName) (opens : Opens app type root) :
      Bounded app (· ≠ .exhaustion) root := by
    have within := endsWithin_of_not_circular (ends root opens) fun _ _ nests => nests.source
    rw [List.length_map] at within
    exact .inr within
  have documents : Documents app (· ≠ .exhaustion) (fun _ => True) _ (resolveClass app type route) :=
    documents_resolveClass (fun _ other => other) bounded
  intro exhausts
  cases ran : after (resolveClass app type route) run with
  | mk result last =>
      rw [ran] at exhausts
      subst exhausts
      exact documents.fails ran rfl

/-! Which classes an answer is sure to come to. -/

/-- The classes that the resolver comes to first on its way to an answer. -/
inductive Starts (app : App) : ClassName → ClassName → Prop
  | itself {type : ClassName}
      (documented : app.isCollection type = true ∨ app.isResource type = true) :
      Starts app type type
  | inside {type inner : ClassName} {reply : Reply}
      (raw : ¬ (app.isCollection type = true ∨ app.isResource type = true))
      (isRaw : app.isA type Contract.responseName = true) (replies : replyOf app type = .ok reply)
      (comes : Comes (nestedAlone app) inner reply.data) : Starts app type inner

theorem infer_exhausts_iff {data : Value} :
    Node.inferWith (nestedAlone app) none data = .error .exhaustion ↔
      ∃ root, Comes (nestedAlone app) root data ∧ Circular (Leads app) root := by
  constructor
  · intro exhausts
    obtain ⟨root, under, comes, deep⟩ := comes_of_exhausts none data exhausts
    exact ⟨root, comes, (nestedAlone_exhausts_iff under).mp deep⟩
  · rintro ⟨root, comes, circular⟩
    exact exhausts_of_comes comes (fun _ _ _ => approaches_of_infer)
      (exhausts_of_circular circular _) none

def bodyAlone (app : App) (data : Value) : Outcome (Option Node) :=
  match data with
  | .null => pure none
  | data => do pure (some (← Node.inferWith (nestedAlone app) none data))

theorem gives_bodyOf (uniform : Uniform app) (data : Value) :
    Gives app (bodyOf app data) (bodyAlone app data) := by
  unfold bodyOf
  split
  · exact gives_pure none
  · unfold bodyAlone
    split
    · contradiction
    · exact (gives_nested uniform data).bind fun _ _ => gives_pure _

theorem body_exhausts_iff {data : Value} :
    bodyAlone app data = .error .exhaustion ↔
      ∃ root, Comes (nestedAlone app) root data ∧ Circular (Leads app) root := by
  rw [← infer_exhausts_iff]
  unfold bodyAlone
  split
  · constructor
    · intro exhausts
      cases exhausts
    · intro exhausts
      cases exhausts
  · exact Outcome.bind_pure_exhausts_iff

theorem gives_resolveRaw (uniform : Uniform app) (type : ClassName) :
    Gives app (resolveRaw app type)
      (replyOf app type >>= fun reply => bodyAlone app reply.data >>= fun body =>
        make app .rawResponse type reply.status body) := by
  have answers (sample : Option Entity) : Gives app (do
      let reply ← Action.lift (app.rawReply type sample)
      let body ← bodyOf app reply.data
      Action.lift (make app .rawResponse type reply.status body))
      (app.rawReply type sample >>= fun reply => bodyAlone app reply.data >>= fun body =>
        make app .rawResponse type reply.status body) := by
    refine (gives_lift _).bind fun reply _ => ?_
    exact (gives_bodyOf uniform reply.data).bind fun body _ => gives_lift _
  unfold resolveRaw replyOf
  cases app.annotatedEntity? type with
  | none => exact answers none
  | some entity =>
      simp only [bind_assoc, pure_bind]
      exact (gives_firstSample entity).bind fun sample _ => answers (some sample)

theorem ends_replyOf (type : ClassName) : (replyOf app type).Ends := by
  unfold replyOf
  cases app.annotatedEntity? type with
  | none => exact app.ends_rawReply type none
  | some entity =>
      exact (ends_firstOf app entity).bind fun sample _ => app.ends_rawReply type (some sample)

theorem resolveRaw_exhausts_iff (uniform : Uniform app) {run : Run} (sound : Sound app run)
    (type : ClassName) :
    (after (resolveRaw app type) run).1 = .error .exhaustion ↔
      ∃ reply, replyOf app type = .ok reply ∧
        ∃ root, Comes (nestedAlone app) root reply.data ∧ Circular (Leads app) root := by
  rw [(gives_resolveRaw uniform type run sound).1, (ends_replyOf type).bind_exhausts_iff]
  refine exists_congr fun reply => and_congr_right fun _ => ?_
  rw [Outcome.bind_exhausts_iff fun body _ => ends_make app _ _ _ _]
  exact body_exhausts_iff

section

variable {type : ClassName} {holds : ClassName → Prop}

theorem starts_of_documented (documented : app.isCollection type = true ∨ app.isResource type = true) :
    (∃ root, Starts app type root ∧ holds root) ↔ holds type := by
  constructor
  · rintro ⟨root, starts, here⟩
    cases starts with
    | itself _ => exact here
    | inside raw _ _ _ => exact absurd documented raw
  · exact fun here => ⟨type, .itself documented, here⟩

theorem starts_of_raw (raw : ¬ (app.isCollection type = true ∨ app.isResource type = true)) :
    (∃ root, Starts app type root ∧ holds root) ↔
      app.isA type Contract.responseName = true ∧ ∃ reply, replyOf app type = .ok reply ∧
        ∃ root, Comes (nestedAlone app) root reply.data ∧ holds root := by
  constructor
  · rintro ⟨root, starts, here⟩
    cases starts with
    | itself documented => exact absurd documented raw
    | inside _ isRaw replies comes => exact ⟨isRaw, _, replies, root, comes, here⟩
  · rintro ⟨isRaw, reply, replies, root, comes, here⟩
    exact ⟨root, .inside raw isRaw replies comes, here⟩

end

/-- The resolver exhausts every depth exactly if a class that it comes to first leads into a
circle. -/
theorem resolveClass_exhausts_iff (uniform : Uniform app) {run : Run} (sound : Sound app run)
    (type : ClassName) (route : Option String) :
    (after (resolveClass app type route) run).1 = .error .exhaustion ↔
      ∃ root, Starts app type root ∧ Circular (Leads app) root := by
  by_cases documented : app.isCollection type = true ∨ app.isResource type = true
  · rw [(gives_resolveClass uniform documented.symm route run sound).1,
      Outcome.bind_exhausts_iff fun node _ => ends_make app _ _ _ _, shape_exhausts_iff,
      starts_of_documented documented]
  · rw [starts_of_raw documented]
    obtain ⟨isCollection, isResource⟩ := not_or.mp documented
    unfold resolveClass
    rw [if_neg isCollection, if_neg isResource]
    cases app.isA type Contract.responseName with
    | true =>
        rw [if_pos rfl, resolveRaw_exhausts_iff uniform sound]
        exact (and_iff_right rfl).symm
    | false =>
        refine ⟨fun exhausts => ?_, fun starts => nomatch starts.1⟩
        cases isRedirect : app.isA type Contract.redirectName with
        | true =>
            rw [isRedirect, if_neg Bool.false_ne_true, if_pos rfl, Action.after_lift] at exhausts
            exact absurd exhausts (ends_make app .redirect type (.int 302) none)
        | false =>
            rw [isRedirect] at exhausts
            cases exhausts

/-! All that a handler may be said to answer with. -/

theorem resolve_exhausts_eq (hint : Hint) (hasBody : Bool) (route : Option String) (run : Run) :
    (after (resolve app hint hasBody route) run).1 = .error .exhaustion ↔
      ∃ type, hint = .type type ∧
        (after (resolveClass app type route) run).1 = .error .exhaustion := by
  cases hint with
  | type type =>
      unfold resolve
      rw [Action.after_bind]
      cases ran : after (resolveClass app type route) run with
      | mk result last =>
          cases result with
          | error failure => simp [ran]
          | ok resolved => simp [ran]
  | _ => exact ⟨nofun, fun other => nomatch other.choose_spec.1⟩

theorem convert_exhausts_of_circular (uniform : Uniform app) {run : Run} (sound : Sound app run)
    {type : ClassName} (circular : Circular (Leads app) type) (depth : Nat) (name : Option String) :
    (after (convert app depth name type) run).1 = .error .exhaustion := by
  obtain ⟨_, above, _⟩ := converts uniform depth name type run sound
  -- What is deep enough is exhausted too, so it makes no difference which of the two the run gives.
  rw [(nestedAlone_exhausts_iff name).mpr circular] at above
  exact above.elim id id

/-- Resolving a response comes to an end unless a class that its answer opens leads back to itself,
in every application and whatever the run remembers. Where an application documents a resource in one
way, it never does if the resolver comes to such a class, and no depth would be enough. -/
theorem resolve_exhausts_iff (hint : Hint) (hasBody : Bool) (route : Option String) (run : Run) :
    ((∀ type root, hint = .type type → Opens app type root → ¬ Circular (Nests app) root) →
        (after (resolve app hint hasBody route) run).1 ≠ .error .exhaustion) ∧
      (Uniform app → Reached app run →
        ((after (resolve app hint hasBody route) run).1 = .error .exhaustion ↔
          ∃ type root, hint = .type type ∧ Starts app type root ∧ Circular (Leads app) root) ∧
        ∀ type, Circular (Leads app) type → ∀ depth name,
          (after (convert app depth name type) run).1 = .error .exhaustion) := by
  constructor
  · intro ends exhausts
    obtain ⟨type, same, exhausts⟩ := (resolve_exhausts_eq hint hasBody route run).mp exhausts
    exact ends_resolveClass (ends type · same) route run exhausts
  · intro uniform reached
    have sound := reached.sound_of_uniform uniform
    refine ⟨?_, fun type circular => convert_exhausts_of_circular uniform sound circular⟩
    rw [resolve_exhausts_eq]
    refine exists_congr fun type => ?_
    rw [resolveClass_exhausts_iff uniform sound, exists_and_left]

/-! Categories that show the category above them. -/

def categoryView : ClassName := ⟨"shop", "CategoryView"⟩
def category : ClassName := ⟨"shop", "Category"⟩

def catalogue : App where
  ownClasses :=
    [{ name := categoryView, parent := some Contract.resourceName, model := some (some category)
       content := some (.map [(.text "parent", .rendering categoryView)]) },
     { name := category, factory := some { fields := [("title", .numbered "Category #")] } }]

theorem uniform_catalogue : Uniform catalogue where
  keepsContract := by unfold App.KeepsContract; decide
  inherits type isCollection := by
    rcases App.own_of_isCollection isCollection with own | rfl
    · have names : type = categoryView ∨ type = category := by simpa [catalogue] using own
      rcases names with rfl | rfl <;> cases isCollection
    · rfl

theorem leads_categoryView : Leads catalogue categoryView categoryView := by
  refine ⟨.map ([] ++ (.text "parent", .rendering categoryView) :: []), rfl, .map ?_ .rendering⟩
  exact fun _ member => nomatch member

theorem circular_categoryView : Circular (Leads catalogue) categoryView :=
  ⟨categoryView, .refl, .single leads_categoryView⟩

/-- A category has no documentation, a visit has. -/
theorem resolve_categories :
    Uniform catalogue ∧ Reached catalogue {} ∧
      (after (resolve catalogue (.type categoryView) true none) {}).1 = .error .exhaustion ∧
        (∀ type root, Hint.type visitNote = .type type → Opens clinic type root →
          ¬ Circular (Nests clinic) root) ∧
          (after (resolve clinic (.type visitNote) true none) {}).1 ≠ .error .exhaustion := by
  have ends (type root : ClassName) (_ : Hint.type visitNote = .type type)
      (_ : Opens clinic type root) : ¬ Circular (Nests clinic) root := by
    rintro ⟨_, _, back⟩
    obtain ⟨_, nests, _⟩ := TransGen.head'_iff.mp back
    exact not_nests_clinic nests
  have exhausts := ((resolve_exhausts_iff (.type categoryView) true none {}).2 uniform_catalogue
    (.fresh rfl)).1.mpr ⟨categoryView, categoryView, rfl, .itself (.inr rfl), circular_categoryView⟩
  exact ⟨uniform_catalogue, .fresh rfl, exhausts, ends,
    (resolve_exhausts_iff (.type visitNote) true none {}).1 ends⟩

theorem categoryView_exhausts :
    ¬ ∀ (app : App) (hint : Hint) (hasBody : Bool) (route : Option String) (run : Run),
      (after (resolve app hint hasBody route) run).1 ≠ .error .exhaustion := by
  intro ends
  apply ends catalogue (.type categoryView) true none {}
  rw [resolve_exhausts_eq]
  have sound : Sound catalogue {} := sound_of_empty rfl
  refine ⟨categoryView, rfl, (resolveClass_exhausts_iff uniform_catalogue sound _ none).mpr ?_⟩
  exact ⟨categoryView, .itself (.inr rfl), circular_categoryView⟩

end RouteDocs.Response
