import RouteDocs.Proofs.Calendar.Ordinal
import RouteDocs.Proofs.Rule.Calls

/-!
Why rules are refused. The name of a rule may be unknown, or its parameters may be too few. What is
left are numbers of digits that are no integers and days beyond the calendar. A reading ends at the
first rule that is refused; whether one is refused does not depend on what was read before it.
-/

namespace RouteDocs

/-! Days beyond the calendar. -/

/-- The calendar has no day so far from here. -/
def Moment.LeavesCalendar (m : Moment) (days : Int) : Prop :=
  m.date.ordinal + days < 1 ∨ 3652059 < m.date.ordinal + days

instance (m : Moment) (days : Int) : Decidable (m.LeavesCalendar days) :=
  inferInstanceAs (Decidable (_ ∨ _))

theorem Moment.addDays?_eq_none_iff {m : Moment} {days : Int} :
    m.addDays? days = none ↔ m.LeavesCalendar days := by
  rw [addDays?, Option.map_eq_none_iff, Date.addDays?, Date.ofOrdinal?_eq_none_iff, LeavesCalendar]

namespace Rule

open Outcome (error?)

theorem error?_shift (m : Moment) (days : Int) :
    error? (shift m days) = if m.LeavesCalendar days then some .dateOutOfRange else none := by
  unfold shift
  cases moved : m.addDays? days with
  | none =>
      rw [if_pos (Moment.addDays?_eq_none_iff.mp moved)]
      rfl
  | some day =>
      have stays : ¬ m.LeavesCalendar days := by
        rw [← Moment.addDays?_eq_none_iff, moved]
        exact Option.some_ne_none day
      rw [if_neg stays]
      rfl

/-- How far from today the day is that a word stands for. -/
def daysAway (text : String) : Int :=
  let word := Text.lower (Text.trim text)
  if word == "tomorrow" then 1 else if word == "yesterday" then -1 else 0

/-- A day so far from the one that a text refers to may be beyond the calendar, or that one itself. -/
def dayFault? (text : String) (days : Int) (now : Moment) : Option Fault :=
  if daysAway text ≠ 0 ∧ now.midnight.LeavesCalendar (daysAway text) then some .dateOutOfRange
  else match referenceDate text now with
    | .ok (some day) => if day.LeavesCalendar days then some .dateOutOfRange else none
    | _ => none

theorem eq_of_dayFault? {text : String} {days : Int} {now : Moment} {fault : Fault}
    (refuses : dayFault? text days now = some fault) : fault = .dateOutOfRange := by
  unfold dayFault? at refuses
  split at refuses
  · cases refuses
    rfl
  · split at refuses
    · split at refuses <;> cases refuses
      rfl
    · cases refuses

theorem error?_referenceDate (text : String) (now : Moment) :
    error? (referenceDate text now) =
      if daysAway text ≠ 0 ∧ now.midnight.LeavesCalendar (daysAway text) then some .dateOutOfRange
      else none := by
  unfold referenceDate daysAway
  simp only [beq_iff_eq]
  generalize Text.lower (Text.trim text) = word
  by_cases tomorrow : word = "tomorrow"
  · subst tomorrow
    simp [Outcome.error?_map, error?_shift]
  · by_cases yesterday : word = "yesterday"
    · subst yesterday
      simp [Outcome.error?_map, error?_shift]
    · simp only [tomorrow, yesterday, if_false, ne_eq, not_true_eq_false, false_and]
      split
      · rfl
      · split <;> rfl

/-! Numbers of digits. -/

/-- A number of digits that is no integer. -/
def lengthFault? : Number → Option Fault
  | .real .nan => some .nanToInteger
  | .real (.infinity _) => some .infinityToInteger
  | _ => none

def whole : Number → Int
  | .int n => n
  | .real x => x.truncate?.getD 0

/-- No greatest number has a number of digits that is no integer, or one so far below zero that the
power of ten is out of range. -/
def greatestFault? (length : Number) : Option Fault :=
  (lengthFault? length).or
    (if whole length < 0 ∧ Double.ofInt? (whole length) = none then some .integerTooLarge else none)

theorem mem_of_lengthFault? {number : Number} {fault : Fault}
    (refuses : lengthFault? number = some fault) :
    fault ∈ [.infinityToInteger, .nanToInteger, .integerTooLarge] := by
  unfold lengthFault? at refuses
  split at refuses <;> cases refuses <;> decide

theorem mem_of_greatestFault? {number : Number} {fault : Fault}
    (refuses : greatestFault? number = some fault) :
    fault ∈ [.infinityToInteger, .nanToInteger, .integerTooLarge] := by
  rcases Option.or_eq_some_iff.mp refuses with length | ⟨_, power⟩
  · exact mem_of_lengthFault? length
  · split at power <;> cases power
    decide

theorem error?_integerPart (number : Number) : error? (integerPart number) = lengthFault? number := by
  cases number with
  | int n => rfl
  | real x => cases x <;> rfl

theorem integerPart_eq {number : Number} {n : Int} (given : integerPart number = .ok n) :
    n = whole number := by
  cases number with
  | int m => exact (Except.ok.inj given).symm
  | real x => cases x with
    | finite negative mantissa exponent => exact (Except.ok.inj given).symm
    | nan => cases given
    | infinity negative => cases given

theorem error?_greatestWithDigits (length : Int) :
    error? (greatestWithDigits length) =
      if length < 0 ∧ Double.ofInt? length = none then some .integerTooLarge else none := by
  unfold greatestWithDigits
  split
  case isTrue natural => rw [if_neg fun below => absurd natural (Int.not_le.mpr below.1)]; rfl
  case isFalse below =>
    cases inRange : Double.ofInt? length with
    | none => rw [if_pos ⟨Int.not_le.mp below, rfl⟩]; rfl
    | some x => rw [if_neg fun both => by cases both.2]; rfl

theorem error?_digitLimit {limit : Int → Except Fault Number} (fault? : Int → Option Fault)
    (limits : ∀ length, error? (limit length) = fault? length) (digits : Option Number) :
    error? (digitLimit limit digits) =
      digits.bind fun number => (lengthFault? number).or (fault? (whole number)) := by
  cases digits with
  | none => rfl
  | some number =>
      rw [digitLimit, Option.bind_some, ← error?_integerPart]
      apply Outcome.error?_bind
      intro length given
      rw [Outcome.error?_bind_pure, limits, integerPart_eq given]

theorem error?_digitLimits (low high : Option Number) :
    error? (digitLimits low high) = (low.bind lengthFault?).or (high.bind greatestFault?) := by
  have least : error? (digitLimit (fun length => .ok (.int (leastWithDigits length))) low) =
      low.bind lengthFault? := by
    rw [error?_digitLimit (fun _ => none) fun _ => rfl]
    simp only [Option.or_none]
  rw [digitLimits, ← least]
  apply Outcome.error?_bind
  intro _ _
  rw [Outcome.error?_bind_pure]
  exact error?_digitLimit _ error?_greatestWithDigits high

/-! Effects. -/

namespace Effect

/-- Why a rule cannot be applied, if it cannot. -/
def fault? (now : Moment) (parameters : List String) : Effect → Option Fault
  | digits => (number? parameters 0).bind greatestFault?
  | digitsBetween =>
      ((number? parameters 0).bind lengthFault?).or ((number? parameters 1).bind greatestFault?)
  | minDigits => (number? parameters 0).bind lengthFault?
  | maxDigits => (number? parameters 0).bind greatestFault?
  | nearDate days => dayFault? (parameters.getD 0 "") days now
  | _ => none

def countsDigits : Effect → Bool
  | digits | digitsBetween | minDigits | maxDigits => true
  | _ => false

def refersToDay : Effect → Bool
  | nearDate _ => true
  | _ => false

theorem error?_bounds (effect : Effect) (now : Moment) (parameters : List String) (b : Bounds) :
    error? (effect.bounds parameters b) =
      if effect.countsDigits then effect.fault? now parameters else none := by
  cases effect with
  | digits =>
      rw [bounds, setDigits_eq, Outcome.error?_map, error?_digitLimits, countsDigits, if_pos rfl,
        fault?]
      cases number? parameters 0 with
      | none => rfl
      | some number =>
          rw [Option.bind_some, Option.bind_some, greatestFault?]
          cases lengthFault? number <;> rfl
  | digitsBetween =>
      rw [bounds, setDigits_eq, Outcome.error?_map, error?_digitLimits, countsDigits, if_pos rfl,
        fault?]
  | minDigits =>
      rw [bounds, setDigits_eq, Outcome.error?_map, error?_digitLimits, countsDigits, if_pos rfl,
        fault?, Option.bind_none, Option.or_none]
  | maxDigits =>
      rw [bounds, setDigits_eq, Outcome.error?_map, error?_digitLimits, countsDigits, if_pos rfl,
        fault?, Option.bind_none, Option.none_or]
  | _ => rfl

theorem error?_nearDate (days : Int) (now : Moment) (parameters : List String) :
    error? ((nearDate days).writtenSample parameters now) =
      dayFault? (parameters.getD 0 "") days now := by
  rw [writtenSample, dayFault?]
  generalize parameters.getD 0 "" = text
  have beyond := error?_referenceDate text now
  cases referred : referenceDate text now with
  | error fault =>
      rw [referred] at beyond
      split at beyond
      · rename_i leaves
        rw [if_pos leaves, ← beyond]
        rfl
      · cases beyond
  | ok day =>
      rw [referred] at beyond
      split at beyond
      · cases beyond
      · rename_i stays
        rw [if_neg stays]
        cases day with
        | none => rfl
        | some day =>
            dsimp only
            rw [← error?_shift]
            exact Outcome.error?_bind_pure (shift day days) _

theorem error?_writtenSample (effect : Effect) (now : Moment) (parameters : List String) :
    error? (effect.writtenSample parameters now) =
      if effect.refersToDay then effect.fault? now parameters else none := by
  cases effect with
  | nearDate days =>
      rw [refersToDay, if_pos rfl, fault?]
      exact error?_nearDate days now parameters
  | _ => rfl

theorem error?_apply (effect : Effect) (sampler : Sampler) (now : Moment)
    (parameters : List String) (draw : Int) (f : Field) :
    error? (effect.apply sampler now parameters draw f) = effect.fault? now parameters := by
  have failing : error? (effect.apply sampler now parameters draw f) =
      (error? (effect.bounds parameters f.bounds)).or
        (error? (effect.writtenSample parameters now)) := by
    unfold apply
    apply Outcome.error?_bind
    intro _ _
    rw [Outcome.error?_bind_pure]
  rw [failing, error?_bounds effect now, error?_writtenSample]
  cases effect with
  | digits | digitsBetween | minDigits | maxDigits => simp [countsDigits, refersToDay]
  | nearDate days => simp [countsDigits, refersToDay]
  | _ => rfl

/-- Only numbers of digits and days that are referred to can be at fault. -/
theorem fault?_cases {effect : Effect} {now : Moment} {parameters : List String} {fault : Fault}
    (refuses : effect.fault? now parameters = some fault) :
    (effect.countsDigits = true ∧
        fault ∈ [.infinityToInteger, .nanToInteger, .integerTooLarge]) ∨
      (effect.refersToDay = true ∧ fault = .dateOutOfRange) := by
  cases effect with
  | digits | maxDigits =>
      obtain ⟨number, _, refuses⟩ := Option.bind_eq_some_iff.mp refuses
      exact .inl ⟨rfl, mem_of_greatestFault? refuses⟩
  | minDigits =>
      obtain ⟨number, _, refuses⟩ := Option.bind_eq_some_iff.mp refuses
      exact .inl ⟨rfl, mem_of_lengthFault? refuses⟩
  | digitsBetween =>
      rcases Option.or_eq_some_iff.mp refuses with low | ⟨_, high⟩
      · obtain ⟨number, _, refuses⟩ := Option.bind_eq_some_iff.mp low
        exact .inl ⟨rfl, mem_of_lengthFault? refuses⟩
      · obtain ⟨number, _, refuses⟩ := Option.bind_eq_some_iff.mp high
        exact .inl ⟨rfl, mem_of_greatestFault? refuses⟩
  | nearDate days =>
      rw [fault?] at refuses
      exact .inr ⟨rfl, eq_of_dayFault? refuses⟩
  | _ => simp [fault?] at refuses

end Effect

/-! Rules and readings. -/

/-- Why a rule of the given field is refused, if it is. -/
def Call.refusal? (now : Moment) (field : String) (call : Call) : Option Failure :=
  match find? call.name with
  | none => some (.unknownRule call.name (some field))
  | some rule =>
      if call.parameters.length < rule.arity then
        some (.tooFewParameters call.name rule.arity (some field))
      else (rule.effect.fault? now call.parameters).map Failure.fault

namespace Reading

variable {s : Setting} {r after : Reading}

theorem error?_applyCall (call : Call) :
    error? (r.applyCall s call) = call.refusal? s.now r.field.name := by
  unfold applyCall Call.refusal?
  cases find? call.name with
  | none => rfl
  | some rule =>
      dsimp only
      split
      · rfl
      · rw [← Effect.error?_apply rule.effect s.sampler s.now call.parameters r.draw r.field,
          ← Outcome.error?_mapError]
        exact Outcome.error?_bind_pure _ _

theorem error?_step_token (text : String) :
    error? (r.step s (.token text)) =
      (Item.token text).call?.bind (Call.refusal? s.now r.field.name) := by
  rw [step, Item.call?]
  split
  · rfl
  · exact error?_applyCall _

/-- A reading ends at the first rule that is refused. -/
theorem failure_of_steps {items : List Item}
    (tokens : ∀ item ∈ items, ∃ token, item = .token token) :
    (r.steps s items).2 =
      (items.filterMap Item.call?).findSome? (Call.refusal? s.now r.field.name) := by
  induction items generalizing r with
  | nil => rfl
  | cons item rest induction =>
      obtain ⟨token, rfl⟩ := tokens item (by simp)
      have here : (Item.token token).call?.toList.findSome? (Call.refusal? s.now r.field.name) =
          error? (r.step s (.token token)) := by
        rw [error?_step_token]
        cases (Item.token token).call? <;> simp
      rw [steps, filterMap_call?_cons, List.findSome?_append, here]
      cases stepped : r.step s (.token token) with
      | error failure => rfl
      | ok after =>
          have named : after.field.name = r.field.name :=
            name_of_step (fun _ same => by cases same) stepped
          rw [← named]
          exact induction fun other member => tokens other (List.mem_cons_of_mem _ member)

end Reading

def digitNames : List String :=
  ["digits", "digits_between", "min_digits", "max_digits"]

def dayNames : List String :=
  ["after", "before", "after_or_equal", "before_or_equal", "date_equals"]

theorem name_of_effect {name : String} {rule : Rule} (known : find? name = some rule) :
    (rule.effect.countsDigits = true → name ∈ digitNames) ∧
      (rule.effect.refersToDay = true → name ∈ dayNames) := by
  have all : (catalogue.all fun rule =>
      (!rule.effect.countsDigits || decide (rule.name ∈ digitNames)) &&
        (!rule.effect.refersToDay || decide (rule.name ∈ dayNames))) = true := by
    decide +kernel
  have here := List.all_eq_true.mp all rule (List.mem_of_find?_eq_some known)
  have named : rule.name = name := by simpa using List.find?_some known
  simp only [named, Bool.and_eq_true, Bool.or_eq_true, Bool.not_eq_true', decide_eq_true_iff] at here
  constructor
  · intro counts
    exact here.1.resolve_left (by simp [counts])
  · intro refers
    exact here.2.resolve_left (by simp [refers])

/-- Rules in texts are read to the end, or to the first one that is refused: because its name is
unknown, because it has too few parameters, or because it gives a number of digits or a day that
cannot be calculated with. -/
theorem failure_of_read {s : Setting} {name : String} {given : Given} {draw : Int}
    (written : Written given) :
    (read s name given draw).2 = given.calls.findSome? (Call.refusal? s.now name) ∧
      ∀ fault, (read s name given draw).2 = some (.fault fault) →
        ∃ call ∈ given.calls,
          (call.name ∈ digitNames ∧
              fault ∈ [.infinityToInteger, .nanToInteger, .integerTooLarge]) ∨
            (call.name ∈ dayNames ∧ fault = .dateOutOfRange) := by
  have first : (read s name given draw).2 =
      given.calls.findSome? (Call.refusal? s.now name) :=
    Reading.failure_of_steps written.token_of_mem
  refine ⟨first, fun fault fails => ?_⟩
  rw [first] at fails
  obtain ⟨call, member, refuses⟩ := List.exists_of_findSome?_eq_some fails
  refine ⟨call, member, ?_⟩
  unfold Call.refusal? at refuses
  split at refuses
  · cases refuses
  · rename_i rule known
    split at refuses
    · cases refuses
    · obtain ⟨found, faulty, same⟩ := Option.map_eq_some_iff.mp refuses
      cases same
      have named := name_of_effect known
      rcases Effect.fault?_cases faulty with ⟨counts, among⟩ | ⟨refers, beyond⟩
      · exact .inl ⟨named.1 counts, among⟩
      · exact .inr ⟨named.2 refers, beyond⟩

def nestedFaults : Given :=
  .list [.text "Required|max:5",
    .list [.text "after-or-equal:tomorrow| |digits-between:2,nan|unknown:1"]]

theorem failure_of_nestedFaults :
    Written nestedFaults ∧
      (read plainSetting "age" nestedFaults 0).2 = some (.fault .nanToInteger) ∧
      (read plainSetting "age" nestedFaults 0).2 =
        nestedFaults.calls.findSome? (Call.refusal? plainSetting.now "age") ∧
      ∃ call ∈ nestedFaults.calls, call.name ∈ digitNames := by
  have written : Written nestedFaults := by
    refine .list ?_
    simp only [List.forall_mem_cons]
    refine ⟨.text _, .list ?_, nofun⟩
    simp only [List.forall_mem_cons]
    exact ⟨.text _, nofun⟩
  obtain ⟨first, faults⟩ := @failure_of_read plainSetting "age" nestedFaults 0 written
  have refused : nestedFaults.calls.findSome? (Call.refusal? plainSetting.now "age") =
      some (.fault .nanToInteger) := rfl
  have fails := first.trans refused
  obtain ⟨call, member, ⟨digits, _⟩ | ⟨_, other⟩⟩ := faults _ fails
  · exact ⟨written, fails, first, call, member, digits⟩
  · cases other

/-- The one rule is known and has its parameter. -/
theorem digits_inf_fails :
    Written (.text "digits:inf") ∧
      (Given.text "digits:inf").calls = [{ name := "digits", parameters := ["inf"] }] ∧
      (find? "digits").map Rule.arity = some 1 ∧
      (read plainSetting "n" (.text "digits:inf") 0).2 = some (.fault .infinityToInteger) :=
  ⟨.text _, by decide +kernel, by decide +kernel, rfl⟩

end Rule
end RouteDocs
