import RouteDocs.Proofs.Rule.Limits
import RouteDocs.Proofs.Rule.Spelling

/-!
Rules in texts and in parts as the calls that they come to. Reading them applies the calls one after
the other. Whether a call can be applied does not depend on what was read before it.
-/

namespace RouteDocs.Rule

/-- Rules in texts or in parts, in lists of any depth. -/
inductive Stated : Given → Prop
  | text (text : String) : Stated (.text text)
  | parts (parts : List Value) : Stated (.parts parts)
  | list {items : List Given} (each : ∀ item ∈ items, Stated item) : Stated (.list items)

namespace Item

def IsStated : Item → Prop
  | .token _ => True
  | .parts _ => True
  | _ => False

/-- The call that a rule comes to. A blank text comes to none. -/
def call? : Item → Option Call
  | .token text => if Text.isBlankText text.toList then none else some (Call.ofToken text)
  | .parts values => Call.ofParts? values
  | _ => none

end Item

def Given.calls (given : Given) : List Call :=
  given.items.filterMap Item.call?

theorem Stated.of_mem {given : Given} (stated : Stated given) :
    ∀ item ∈ given.items, item.IsStated := by
  induction stated with
  | text text =>
      intro item member
      obtain ⟨token, _, rfl⟩ := List.mem_map.mp member
      trivial
  | parts values =>
      intro item member
      cases List.mem_singleton.mp member
      trivial
  | @list items _ induction =>
      intro item member
      rw [Given.items, itemsOf_eq_flatMap, List.mem_flatMap] at member
      obtain ⟨inner, among, member⟩ := member
      exact induction inner among item member

theorem calls_texts (texts : List String) :
    (Given.list (texts.map .text)).calls =
      (texts.flatMap tokens).filterMap fun token => (Item.token token).call? := by
  simp [Given.calls, Given.items, itemsOf_eq_flatMap, List.flatMap_map, List.filterMap_flatMap,
    List.filterMap_map]

/-! Calls that can be applied. -/

theorem Effect.apply_anywhere {effect : Effect} {sampler : Sampler} {now : Moment}
    {parameters : List String} {draw : Int} {f after : Field}
    (applied : effect.apply sampler now parameters draw f = .ok after) (next : Int)
    (other : Field) : ∃ made, effect.apply sampler now parameters next other = .ok made := by
  obtain ⟨bounds, written, bounded, sampled, _⟩ := apply_cases applied
  obtain ⟨others, bounded⟩ := bounds_anywhere bounded other.bounds
  rw [apply, bounded, sampled]
  exact ⟨_, rfl⟩

namespace Reading

variable {s : Setting} {r after : Reading}

theorem applyCall_anywhere {call : Call} (applied : r.applyCall s call = .ok after)
    (other : Reading) : ∃ made, other.applyCall s call = .ok made := by
  obtain ⟨rule, field, known, enough, effected, _⟩ := applyCall_cases applied
  obtain ⟨made, effected⟩ := Effect.apply_anywhere effected other.draw other.field
  rw [applyCall, known]
  dsimp only
  rw [if_neg (Nat.not_lt_of_le enough), effected]
  exact ⟨_, rfl⟩

def applyCalls (s : Setting) (r : Reading) (calls : List Call) : Except Failure Reading :=
  calls.foldlM (applyCall s) r

@[simp] theorem applyCalls_nil : r.applyCalls s [] = .ok r := rfl

theorem applyCalls_cons_iff {call : Call} {rest : List Call} :
    r.applyCalls s (call :: rest) = .ok after ↔
      ∃ next, r.applyCall s call = .ok next ∧ next.applyCalls s rest = .ok after := by
  rw [applyCalls, List.foldlM_cons]
  constructor
  · intro applied
    exact Outcome.ok_of_bind applied
  · rintro ⟨next, first, later⟩
    rw [first]
    exact later

theorem applyCalls_singleton (call : Call) : r.applyCalls s [call] = r.applyCall s call := by
  rw [applyCalls, List.foldlM_cons]
  cases r.applyCall s call <;> rfl

theorem applyCalls_append_iff {calls more : List Call} :
    r.applyCalls s (calls ++ more) = .ok after ↔
      ∃ between, r.applyCalls s calls = .ok between ∧ between.applyCalls s more = .ok after := by
  induction calls generalizing r with
  | nil => simp
  | cons call rest induction =>
      rw [List.cons_append, applyCalls_cons_iff]
      constructor
      · rintro ⟨next, first, later⟩
        obtain ⟨between, middle, last⟩ := induction.mp later
        exact ⟨between, applyCalls_cons_iff.mpr ⟨next, first, middle⟩, last⟩
      · rintro ⟨between, front, last⟩
        obtain ⟨next, first, middle⟩ := applyCalls_cons_iff.mp front
        exact ⟨next, first, induction.mpr ⟨between, middle, last⟩⟩

theorem exists_applyCalls_iff {calls : List Call} :
    (∃ after, r.applyCalls s calls = .ok after) ↔
      ∀ call ∈ calls, ∃ after, r.applyCall s call = .ok after := by
  induction calls generalizing r with
  | nil => simp
  | cons call rest induction =>
      rw [List.forall_mem_cons]
      constructor
      · rintro ⟨after, applied⟩
        obtain ⟨next, first, later⟩ := applyCalls_cons_iff.mp applied
        refine ⟨⟨next, first⟩, fun other member => ?_⟩
        obtain ⟨made, applied⟩ := induction.mp ⟨after, later⟩ other member
        exact applyCall_anywhere applied r
      · rintro ⟨⟨next, first⟩, others⟩
        obtain ⟨after, later⟩ := (induction (r := next)).mpr fun other member => by
          obtain ⟨made, applied⟩ := others other member
          exact applyCall_anywhere applied next
        exact ⟨after, applyCalls_cons_iff.mpr ⟨next, first, later⟩⟩

/-! Items and their calls. -/

variable {items : List Item}

theorem steps_cons_eq_none_iff {item : Item} :
    r.steps s (item :: items) = (after, none) ↔
      ∃ next, r.step s item = .ok next ∧ next.steps s items = (after, none) := by
  rw [steps]
  cases r.step s item with
  | error failure => simp
  | ok next => simp

theorem steps_append_eq_none_iff {more : List Item} :
    r.steps s (items ++ more) = (after, none) ↔
      ∃ between, r.steps s items = (between, none) ∧ between.steps s more = (after, none) := by
  induction items generalizing r with
  | nil => simp [steps]
  | cons item rest induction =>
      simp only [List.cons_append, steps_cons_eq_none_iff, induction]
      constructor
      · rintro ⟨next, first, between, middle, last⟩
        exact ⟨between, ⟨next, first, middle⟩, last⟩
      · rintro ⟨between, ⟨next, first, middle⟩, last⟩
        exact ⟨next, first, between, middle, last⟩

theorem step_token (text : String) :
    r.step s (.token text) = r.applyCalls s (Item.token text).call?.toList := by
  rw [step, Item.call?]
  split
  · rfl
  · rw [Option.toList_some, applyCalls_singleton]

theorem step_stated {item : Item} (stated : item.IsStated) (stepped : r.step s item = .ok after) :
    r.applyCalls s item.call?.toList = .ok after := by
  cases item with
  | token text => rw [← step_token, stepped]
  | parts values =>
      rw [step] at stepped
      rw [Item.call?]
      cases called : Call.ofParts? values with
      | none =>
          rw [called] at stepped
          cases stepped
      | some call =>
          rw [called] at stepped
          exact applyCalls_cons_iff.mpr ⟨after, stepped, rfl⟩
  | custom rule => exact stated.elim
  | «foreign» value => exact stated.elim

theorem step_anywhere {item : Item} (stated : item.IsStated) (stepped : r.step s item = .ok after)
    (other : Reading) : ∃ made, other.step s item = .ok made := by
  cases item with
  | token text =>
      rw [step] at stepped ⊢
      split at stepped
      · rename_i blank
        rw [if_pos blank]
        exact ⟨other, rfl⟩
      · rename_i full
        rw [if_neg full]
        exact applyCall_anywhere stepped other
  | parts values =>
      rw [step] at stepped ⊢
      cases called : Call.ofParts? values with
      | none =>
          rw [called] at stepped
          cases stepped
      | some call =>
          rw [called] at stepped
          exact applyCall_anywhere stepped other
  | custom rule => exact stated.elim
  | «foreign» value => exact stated.elim

theorem steps_anywhere (stated : ∀ item ∈ items, item.IsStated)
    (succeeds : r.steps s items = (after, none)) (other : Reading) :
    ∃ made, other.steps s items = (made, none) := by
  induction items generalizing r other with
  | nil => exact ⟨other, rfl⟩
  | cons item rest induction =>
      obtain ⟨next, first, later⟩ := steps_cons_eq_none_iff.mp succeeds
      obtain ⟨middle, here⟩ := step_anywhere (stated item (by simp)) first other
      obtain ⟨made, finished⟩ :=
        induction (fun item member => stated item (List.mem_cons_of_mem _ member)) later middle
      exact ⟨made, steps_cons_eq_none_iff.mpr ⟨middle, here, finished⟩⟩

theorem filterMap_call?_cons (item : Item) (rest : List Item) :
    (item :: rest).filterMap Item.call? = item.call?.toList ++ rest.filterMap Item.call? := by
  rw [List.filterMap_cons]
  cases item.call? <;> rfl

theorem applyCalls_of_steps (stated : ∀ item ∈ items, item.IsStated)
    (succeeds : r.steps s items = (after, none)) :
    r.applyCalls s (items.filterMap Item.call?) = .ok after := by
  induction items generalizing r with
  | nil =>
      cases succeeds
      rfl
  | cons item rest induction =>
      obtain ⟨next, first, later⟩ := steps_cons_eq_none_iff.mp succeeds
      rw [filterMap_call?_cons, applyCalls_append_iff]
      exact ⟨next, step_stated (stated item (by simp)) first,
        induction (fun other member => stated other (List.mem_cons_of_mem _ member)) later⟩

theorem steps_tokens_iff (tokens : ∀ item ∈ items, ∃ token, item = .token token) :
    r.steps s items = (after, none) ↔
      r.applyCalls s (items.filterMap Item.call?) = .ok after := by
  induction items generalizing r with
  | nil => simp [steps]
  | cons item rest induction =>
      obtain ⟨token, rfl⟩ := tokens item (by simp)
      rw [steps_cons_eq_none_iff, filterMap_call?_cons, applyCalls_append_iff]
      simp only [step_token]
      refine exists_congr fun next => and_congr_right fun _ => ?_
      exact induction fun other member => tokens other (List.mem_cons_of_mem _ member)

end Reading

section

variable {s : Setting} {name : String} {draw : Int} {after : Reading}

theorem read_eq_of_none {given : Given} (succeeds : (read s name given draw).2 = none) :
    read s name given draw = ((read s name given draw).1, none) := by
  rw [← succeeds]

theorem read_written_iff {given : Given} (written : Written given) :
    read s name given draw = (after, none) ↔
      Reading.applyCalls s { field := { name }, draw } given.calls = .ok after :=
  Reading.steps_tokens_iff written.token_of_mem

/-- Reading succeeds if each call could be applied first of all. -/
theorem read_succeeds_iff {given : Given} (written : Written given) :
    (read s name given draw).2 = none ↔
      ∀ call ∈ given.calls, ∃ after,
        Reading.applyCall s { field := { name }, draw } call = .ok after := by
  rw [← Reading.exists_applyCalls_iff]
  constructor
  · intro succeeds
    exact ⟨_, (read_written_iff written).mp (read_eq_of_none succeeds)⟩
  · rintro ⟨after, applied⟩
    rw [(read_written_iff written).mpr applied]

theorem read_append_iff {rules more : List Given} :
    read s name (.list (rules ++ more)) draw = (after, none) ↔
      ∃ between, read s name (.list rules) draw = (between, none) ∧
        between.steps s (Given.list more).items = (after, none) := by
  have items : (Given.list (rules ++ more)).items =
      (Given.list rules).items ++ (Given.list more).items := by
    simp [Given.items, itemsOf_eq_flatMap]
  rw [read, items]
  exact Reading.steps_append_eq_none_iff

end

end RouteDocs.Rule
