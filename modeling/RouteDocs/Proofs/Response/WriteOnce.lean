import RouteDocs.Proofs.Response.Steps

/-!
A cache that is only asked for schemas never gives up one that it held before the question,
even if computing a schema asks for others on its way. A computation that asks for its own
key is the exception: what was stored for it is replaced when it ends.
-/

namespace RouteDocs

open Schema (Node)

/-- A step that may fail, over a state of any kind. -/
abbrev Step (ε ω : Type) := ExceptT ε (StateM ω)

namespace Step

variable {ε ω α β : Type}

def after (step : Step ε ω α) (state : ω) : Except ε α × ω :=
  step.run.run state

theorem after_bind (step : Step ε ω α) (next : α → Step ε ω β) (state : ω) :
    after (step >>= next) state =
      match after step state with
      | (.ok a, state) => after (next a) state
      | (.error failure, state) => (.error failure, state) := by
  unfold after ExceptT.run StateT.run
  simp only [bind, ExceptT.bind, ExceptT.mk, StateT.bind, ExceptT.bindCont]
  cases step state with
  | mk result between => cases result <;> rfl

theorem after_tryCatch (step : Step ε ω α) (handler : ε → Step ε ω α) (state : ω) :
    after (tryCatch step handler) state =
      match after step state with
      | (.ok a, state) => (.ok a, state)
      | (.error failure, state) => after (handler failure) state := by
  unfold after ExceptT.run StateT.run
  simp only [tryCatch, tryCatchThe, MonadExceptOf.tryCatch, ExceptT.tryCatch, ExceptT.mk, bind,
    StateT.bind]
  cases step state with
  | mk result between => cases result <;> rfl

end Step

namespace ShapeCache

open Step (after)

variable {κ ω ε : Type} [BEq κ]

/-- Whatever the one cache holds, the other holds as well. -/
def Kept (cache other : ShapeCache κ) : Prop :=
  ∀ key node, cache.find? key = some node → other.find? key = some node

theorem Kept.refl (cache : ShapeCache κ) : Kept cache cache := fun _ _ found => found

theorem Kept.trans {first second third : ShapeCache κ} (early : Kept first second)
    (late : Kept second third) : Kept first third :=
  fun key node found => late key node (early key node found)

/-- What is stored at the end of a computation replaces what the computation stored for the
same key, and nothing else. -/
theorem kept_put_iff [LawfulBEq κ] {before : ShapeCache κ} {key : κ} {node : Node} {last : ShapeCache κ}
    (later : Kept (before.put key node) last) :
    Kept before last ↔ ∀ held, before.find? key = some held → held = node := by
  have stored : last.find? key = some node := by
    apply later
    rw [find?_put, beq_self_eq_true]
    rfl
  constructor
  · intro kept held found
    have still := kept key held found
    rw [stored] at still
    exact (Option.some.inj still).symm
  · intro same other held found
    by_cases here : other = key
    · subst here
      rw [same held found]
      exact stored
    · apply later
      rw [find?_put, beq_false_of_ne here]
      exact found

variable [MonadStateOf (ShapeCache κ) (Step ε ω)]

/-- Steps find the cache in one place of the state, and change it there. -/
structure Within (ε : Type) (cache : ω → ShapeCache κ)
    [MonadStateOf (ShapeCache κ) (Step ε ω)] : Prop where
  read : ∀ state,
    after (getThe (ShapeCache κ) : Step ε ω (ShapeCache κ)) state = (.ok (cache state), state)
  change : ∀ (f : ShapeCache κ → ShapeCache κ) (state : ω), ∃ changed,
    after (modifyThe (ShapeCache κ) f : Step ε ω Unit) state = (.ok (), changed) ∧
      cache changed = f (cache state)

/-- Steps that get at the cache by asking for schemas alone, also on the way to a schema that
was asked for. All keys that are asked for are of the given kind. -/
inductive Asks (cache : ω → ShapeCache κ) (kind : κ → Prop) : {α : Type} → Step ε ω α → Prop
  | leave {α : Type} {step : Step ε ω α}
      (alone : ∀ state, cache (after step state).2 = cache state) : Asks cache kind step
  | bind {α β : Type} {step : Step ε ω α} {next : α → Step ε ω β} (first : Asks cache kind step)
      (follows : ∀ a state last, after step state = (.ok a, last) → Asks cache kind (next a)) :
      Asks cache kind (step >>= next)
  | rescue {α : Type} {step : Step ε ω α} {handler : ε → Step ε ω α}
      (first : Asks cache kind step) (handles : ∀ failure, Asks cache kind (handler failure)) :
      Asks cache kind (tryCatch step handler)
  | ask {key : κ} {compute : Step ε ω Node} (allowed : kind key)
      (computes : Asks cache kind compute) : Asks cache kind (getOrCompute key compute)

section

variable {cache : ω → ShapeCache κ} (within : Within ε cache)
include within

theorem after_known {key : κ} {node : Node} {state : ω} (compute : Step ε ω Node)
    (known : (cache state).find? key = some node) :
    after (getOrCompute key compute) state = (.ok node, state) := by
  unfold getOrCompute
  rw [Step.after_bind, within.read]
  dsimp only
  rw [known]
  rfl

theorem after_computed {key : κ} {node : Node} {state between : ω} {compute : Step ε ω Node}
    (new : (cache state).find? key = none)
    (computes : after compute state = (.ok node, between)) :
    ∃ last, after (getOrCompute key compute) state = (.ok node, last) ∧
      cache last = (cache between).put key node := by
  obtain ⟨last, stored, same⟩ := within.change (fun cache => cache.put key node) between
  refine ⟨last, ?_, same⟩
  unfold getOrCompute
  rw [Step.after_bind, within.read]
  dsimp only
  rw [new, Step.after_bind, computes]
  dsimp only
  rw [Step.after_bind, stored]
  rfl

theorem after_failed {key : κ} {failure : ε} {state between : ω} {compute : Step ε ω Node}
    (new : (cache state).find? key = none)
    (fails : after compute state = (.error failure, between)) :
    after (getOrCompute key compute) state = (.error failure, between) := by
  unfold getOrCompute
  rw [Step.after_bind, within.read]
  dsimp only
  rw [new, Step.after_bind, fails]

/-- What holds of storing the outcome of a computation for a key that was not there, and of
one step after the other, holds of all steps that ask for schemas. -/
theorem Asks.induct {kind : κ → Prop} (rel : ShapeCache κ → ShapeCache κ → Prop)
    (refl : ∀ cache, rel cache cache)
    (trans : ∀ {first second third}, rel first second → rel second third → rel first third)
    (store : ∀ {key node first second}, kind key → first.find? key = none → rel first second →
      rel first (second.put key node))
    {α : Type} {step : Step ε ω α} (asks : Asks cache kind step) (state : ω) :
    rel (cache state) (cache (after step state).2) := by
  induction asks generalizing state with
  | leave alone =>
      rw [alone]
      exact refl _
  | @bind _ _ step next _ _ first follows =>
      rw [Step.after_bind]
      have early := first state
      cases ran : after step state with
      | mk result between =>
          rw [ran] at early
          cases result with
          | error failure => exact early
          | ok a => exact trans early (follows a state between ran between)
  | @rescue _ step handler _ _ first handles =>
      rw [Step.after_tryCatch]
      have early := first state
      cases ran : after step state with
      | mk result between =>
          rw [ran] at early
          cases result with
          | error failure => exact trans early (handles failure between)
          | ok a => exact early
  | @ask key compute allowed _ computes =>
      cases found : (cache state).find? key with
      | some node =>
          rw [after_known within compute found]
          exact refl _
      | none =>
          have early := computes state
          cases ran : after compute state with
          | mk result between =>
              rw [ran] at early
              cases result with
              | error failure =>
                  rw [after_failed within found ran]
                  exact early
              | ok node =>
                  obtain ⟨last, stores, same⟩ := after_computed within found ran
                  rw [stores]
                  show rel _ (cache last)
                  rw [same]
                  exact store allowed found early

variable [LawfulBEq κ]

theorem Asks.keeps {kind : κ → Prop} {α : Type} {step : Step ε ω α} (asks : Asks cache kind step)
    (state : ω) : Kept (cache state) (cache (after step state).2) := by
  refine asks.induct within Kept Kept.refl Kept.trans ?_ state
  intro key node first second _ new early other held found
  -- The key that is stored was not held before, so it is none that has to be kept.
  have others : (other == key) = false := by
    refine beq_false_of_ne fun same => ?_
    rw [same, new] at found
    cases found
  rw [find?_put, others]
  exact early other held found

theorem Asks.avoids {key : κ} {α : Type} {step : Step ε ω α} (asks : Asks cache (· ≠ key) step)
    (state : ω) : (cache (after step state).2).find? key = (cache state).find? key := by
  refine asks.induct within (fun before behind => behind.find? key = before.find? key)
    (fun _ => rfl) (fun early late => late.trans early) ?_ state
  intro other node first second apart _ early
  rw [find?_put, beq_false_of_ne (Ne.symm apart)]
  exact early

end

/-! One question after the other. -/

/-- The state after all the questions, each with what would compute its answer. -/
def afterAll (questions : List (κ × Step ε ω Node)) (state : ω) : ω :=
  questions.foldl (fun state question => (after (getOrCompute question.1 question.2) state).2) state

section

variable {cache : ω → ShapeCache κ}

theorem Asks.any {kind : κ → Prop} {α : Type} {step : Step ε ω α} (asks : Asks cache kind step) :
    Asks cache (fun _ => True) step := by
  induction asks with
  | leave alone => exact .leave alone
  | bind _ _ first follows => exact .bind first follows
  | rescue _ _ first handles => exact .rescue first handles
  | ask _ _ computes => exact .ask trivial computes

variable [LawfulBEq κ] (within : Within ε cache)
include within

theorem kept_afterAll {questions : List (κ × Step ε ω Node)}
    (ask : ∀ question ∈ questions, Asks cache (fun _ => True) question.2) (state : ω) :
    Kept (cache state) (cache (afterAll questions state)) := by
  induction questions generalizing state with
  | nil => exact Kept.refl _
  | cons question rest induction =>
      have asks : Asks cache (fun _ => True) (getOrCompute question.1 question.2) :=
        .ask trivial (ask question List.mem_cons_self)
      refine (asks.keeps within state).trans ?_
      exact induction (fun later member => ask later (List.mem_cons_of_mem _ member)) _

/-- What a question and later ones do to the schemas that are held before it, and to those that
are stored on the way to its answer. -/
structure Remembers (cache : ω → ShapeCache κ) (key : κ) (compute : Step ε ω Node)
    (later : List (κ × Step ε ω Node)) (state : ω) : Prop where
  kept : Kept (cache state) (cache (afterAll ((key, compute) :: later) state))
  answered : ∀ held node, (cache state).find? held = some node → ∀ again : Step ε ω Node,
    after (getOrCompute held again) (afterAll ((key, compute) :: later) state) =
      (.ok node, afterAll ((key, compute) :: later) state)
  computed : (cache state).find? key = none → ∀ node between,
    after compute state = (.ok node, between) →
      (∀ again : Step ε ω Node,
        after (getOrCompute key again) (afterAll ((key, compute) :: later) state) =
          (.ok node, afterAll ((key, compute) :: later) state)) ∧
        (Kept (cache between) (cache (afterAll ((key, compute) :: later) state)) ↔
          ∀ held, (cache between).find? key = some held → held = node)
  failed : (cache state).find? key = none → ∀ failure between,
    after compute state = (.error failure, between) →
      after (getOrCompute key compute) state = (.error failure, between) ∧
        Kept (cache between) (cache (afterAll ((key, compute) :: later) state))
  /-- Only a computation that asks for its own key leaves something there. -/
  apart : (cache state).find? key = none → Asks cache (· ≠ key) compute →
    (cache (after compute state).2).find? key = none

theorem remembers {key : κ} {compute : Step ε ω Node} {later : List (κ × Step ε ω Node)}
    (asks : Asks cache (fun _ => True) compute)
    (ask : ∀ question ∈ later, Asks cache (fun _ => True) question.2) (state : ω) :
    Remembers cache key compute later state := by
  have kept : Kept (cache state) (cache (afterAll ((key, compute) :: later) state)) :=
    kept_afterAll within (List.forall_mem_cons.mpr ⟨asks, ask⟩) state
  have behind (result : Except ε Node) (last : ω)
      (answers : after (getOrCompute key compute) state = (result, last)) :
      afterAll ((key, compute) :: later) state = afterAll later last := by
    rw [afterAll, List.foldl_cons, answers]
    rfl
  refine ⟨kept, ?_, ?_, ?_, ?_⟩
  · intro held node found again
    exact after_known within again (kept held node found)
  · intro new node between computes
    obtain ⟨last, stores, same⟩ := after_computed within new computes
    have still := kept_afterAll within ask last
    rw [behind _ _ stores]
    rw [same] at still
    refine ⟨fun again => after_known within again (still key node ?_), kept_put_iff still⟩
    rw [find?_put, beq_self_eq_true]
    rfl
  · intro new failure between fails
    have answers := after_failed within new fails
    rw [behind _ _ answers]
    exact ⟨answers, kept_afterAll within ask between⟩
  · intro new apart
    rw [apart.avoids within]
    exact new

end

end ShapeCache

/-! The resolver asks for schemas alone. -/

namespace Response

open ShapeCache
open RouteDocs.Action (after)

theorem within_run : Within Failure Run.shapes where
  read _ := rfl
  change f run := ⟨{ run with shapes := f run.shapes }, rfl, rfl⟩

theorem Documents.asks {app : App} {fails : Failure → Prop} {scope : ClassName → Prop}
    {samples : Nat} {α : Type} {step : Action α} (documents : Documents app fails scope samples step) :
    Asks Run.shapes (fun _ => True) step := by
  induction documents with
  | @lift _ _ outcome _ =>
      refine .leave fun run => ?_
      show (after (Action.lift outcome) run).2.shapes = run.shapes
      rw [Action.after_lift]
  | fail _ => exact .leave fun _ => rfl
  | sampling => exact .leave fun _ => rfl
  | bind _ _ first follows => exact .bind first follows
  | shape _ _ _ _ _ computes => exact .ask trivial (.bind (.leave fun _ => rfl) fun _ _ _ _ => computes)

/-- Whatever a resolver is asked, and whether it can answer or not, the schemas that a run
remembers stay the same. -/
theorem kept_perform (app : App) (call : Call) (run : Run) :
    Kept run.shapes (after (call.perform app) run).2.shapes := by
  have documents : Documents app (fun _ => True) (fun _ => True) _ (call.perform app) :=
    documents_perform (fun _ _ => trivial) fun _ _ => .inl trivial
  exact documents.asks.keeps within_run run

theorem asks_infer (app : App) (name : Option String) (value : Value) :
    Asks Run.shapes (fun _ => True) (Node.inferWith (nested app) name value) := by
  have documents : Documents app (fun _ => True) (fun _ => True) 0
      (Node.inferWith (nested app) name value) := by
    refine documents_inferWith (fun _ _ => trivial) name value fun inner _ name => ?_
    exact (documents_convert (fun _ _ => trivial) _ inner (.inl trivial) name).mono fun _ _ => trivial
  exact documents.asks

/-! A list of stories that shows each of them beside its title, where the resource of a story
shows the title alone. -/

def storyList : ClassName := ⟨"press", "StoryList"⟩
def storyView : ClassName := ⟨"press", "StoryView"⟩
def story : ClassName := ⟨"press", "Story"⟩

def press : App where
  ownClasses :=
    [{ name := storyList, parent := some Contract.collectionName
       collects := some (some storyView)
       items := some (.list [.map [(.text "story", .rendering storyView)]]) },
     { name := storyView, parent := some Contract.resourceName, model := some (some story)
       content := some (.map [(.text "title", .field "title")]) },
     { name := story, factory := some { fields := [("title", .numbered "Story #")] } }]

/-- How the list computes the schema of its items. -/
def firstStory : Action Node :=
  Node.inferWith (nested press) none (.map [(.text "story", .rendering storyView)])

/-- The names under which a schema that is remembered shows its parts. -/
def partNames (run : Run) (type : ClassName) : Option (List (Option String)) :=
  (run.shapes.find? type).map fun node => node.children.map Node.name

theorem remembers_firstStory : Within Failure Run.shapes ∧
    Asks Run.shapes (fun _ => True) firstStory ∧
      (∀ question ∈ [(storyView, firstStory)], Asks Run.shapes (fun _ => True) question.2) ∧
        Remembers Run.shapes storyView firstStory [(storyView, firstStory)] {} := by
  have asks : Asks Run.shapes (fun _ => True) firstStory := asks_infer press none _
  have ask : ∀ question ∈ [(storyView, firstStory)], Asks Run.shapes (fun _ => True) question.2 :=
    List.forall_mem_singleton.mpr asks
  exact ⟨within_run, asks, ask, remembers within_run asks ask {}⟩

/-- The list leaves a story with its own schema inside, in the place of the schema that was
stored and used first. -/
theorem storyView_replaced :
    ¬ (∀ (type : ClassName) (compute : Action Node), Asks Run.shapes (fun _ => True) compute →
        ∀ run : Run, Kept (after compute run).2.shapes
          (after (getOrCompute type compute) run).2.shapes) ∧
      partNames (after firstStory {}).2 storyView = some [some "title"] ∧
        partNames (after (collectionShape press (nested press) storyList) {}).2 storyView =
          some [some "story"] := by
  have early : partNames (after firstStory {}).2 storyView = some [some "title"] := by
    decide +kernel
  have late : partNames (after (getOrCompute storyView firstStory) {}).2 storyView =
      some [some "story"] := by
    decide +kernel
  refine ⟨fun kept => ?_, early, by decide +kernel⟩
  have stays := kept storyView firstStory (asks_infer press none _) {}
  obtain ⟨node, found, names⟩ := Option.map_eq_some_iff.mp early
  rw [partNames, stays storyView node found, Option.map_some, names] at late
  exact absurd late (by decide)

end Response
end RouteDocs
