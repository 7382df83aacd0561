import RouteDocs.Field.Example
import RouteDocs.Proofs.Field.IntegerSample
import RouteDocs.Proofs.Outcome

/-!
What is asked of a source for the example of a field. An example is worked out from the field alone
up to the one request that it may need. Whatever the bounds say, that request has an answer: its
range is not empty, and neither is the list to choose from nor the text that is made up.
-/

namespace RouteDocs

inductive Request where
  | integer (low high : Int)
  | real (low high : Number)
  | choose (items : List String) (count : Nat)
  | letters (count : Nat)
  | fileName (extension : String)
  deriving DecidableEq, Repr

namespace Request

/-- The ends of a range of numbers become floating-point numbers before one is drawn. -/
def answer (s : Sampler) (draw : Int) : Request → Except Fault Value
  | integer low high => .ok (.int (s.integer low high draw))
  | real low high => do
      let low ← Field.toDouble low
      let high ← Field.toDouble high
      pure (.real (s.real low high draw))
  | choose items count =>
      .ok (.text (String.ofList ((s.choose items count draw).flatMap String.toList)))
  | letters count => .ok (.text (s.letters count draw))
  | fileName extension => .ok (.text (s.fileName extension draw))

/-- What a source may rely on. -/
def IsProper : Request → Prop
  | integer low high => low ≤ high
  | real low high => low.IsFinite ∧ high.IsFinite ∧ low.value < high.value
  | choose items count => items ≠ [] ∧ 0 < count
  | letters count => 0 < count
  | fileName _ => True

end Request

/-- How to come by an example: it is settled, or made of what a source answers. -/
inductive Plan where
  | settled (sample : Option Value)
  | asks (request : Request) (made : Value → Value)

namespace Plan

def request? : Plan → Option Request
  | settled _ => none
  | asks request _ => some request

/-- The example, and the number of the next draw. -/
def follow (s : Sampler) (draw : Int) : Plan → Except Fault (Option Value × Int)
  | settled sample => .ok (sample, draw)
  | asks request made => (request.answer s draw).map fun value => (some (made value), draw + 1)

def IsProper (plan : Plan) : Prop :=
  ∀ request ∈ plan.request?, request.IsProper

theorem isProper_settled (sample : Option Value) : (settled sample).IsProper := nofun

theorem isProper_asks {request : Request} {made : Value → Value} :
    (asks request made).IsProper ↔ request.IsProper := by
  simp [IsProper, request?]

theorem follow_congr {s t : Sampler} {draw : Int} {plan : Plan}
    (same : ∀ request ∈ plan.request?, request.answer s draw = request.answer t draw) :
    plan.follow s draw = plan.follow t draw := by
  cases plan with
  | settled sample => rfl
  | asks request made => rw [follow, follow, same request rfl]

end Plan

namespace Field

/-! The plan for a field. -/

def integerPlan (b : Bounds) : Except Fault Plan := do
  let low ← Rule.integerPart (exampleRange b).1
  let high ← Rule.integerPart (exampleRange b).2
  pure (.asks (.integer low high) id)

def roundedReal : Value → Value
  | .real x => .real (x.roundPlaces 2)
  | value => value

def realPlan (b : Bounds) : Except Fault Plan :=
  if (exampleRange b).1.lt (exampleRange b).2 then
    .ok (.asks (.real (exampleRange b).1 (exampleRange b).2) roundedReal)
  else
    (toDouble (exampleRange b).1).map fun only => .settled (some (.real only))

def surrounded (f : Field) : Value → Value
  | .text body => textAround f body.toList
  | value => value

def textPlan (f : Field) : Except Fault Plan := do
  let length ← bodyLength f
  if length = 0 then pure (.settled (some (textAround f [])))
  else if f.validCharacters.isEmpty then pure (.asks (.letters length) f.surrounded)
  else pure (.asks (.choose f.validCharacters length) f.surrounded)

def extension (f : Field) : String :=
  ((f.fileExtensions.getD []).head?).getD "txt"

def typePlan (f : Field) : Except Fault Plan :=
  match f.resolvedType with
  | .boolean => .ok (.settled (some (.bool true)))
  | .integer => integerPlan f.bounds
  | .number => realPlan f.bounds
  | .array => .ok (.settled (some (.list [])))
  | .object => .ok (.settled (some (.map [])))
  | .file => .ok (.asks (.fileName f.extension) id)
  | _ => textPlan f

/-- An example that is there stays, and the first literal comes before the type. -/
def plan (f : Field) : Except Fault Plan :=
  match f.sample, f.literals.getD [] with
  | some value, _ => .ok (.settled (some value))
  | none, literal :: _ => .ok (.settled (sampleOf literal))
  | none, [] => f.typePlan

def request? (f : Field) : Option Request :=
  match f.plan with
  | .error _ => none
  | .ok plan => plan.request?

/-- The example that a guess comes to, and the number of the next draw. -/
def Guess.taken (draw : Int) : Guess → Option Value × Int
  | .written value => (sampleOf value, draw)
  | .drawn value => (sampleOf (value draw), draw + 1)

section

variable (s : Sampler) (draw : Int)

theorem integerGuess_taken (b : Bounds) :
    (integerGuess s b).map (Guess.taken draw) = integerPlan b >>= Plan.follow s draw := by
  rw [integerGuess_eq, integerPlan]
  cases Rule.integerPart (exampleRange b).1 with
  | error fault => rfl
  | ok low =>
      cases Rule.integerPart (exampleRange b).2 with
      | error fault => rfl
      | ok high => rfl

theorem numberGuess_taken (b : Bounds) :
    (numberGuess s b).map (Guess.taken draw) = realPlan b >>= Plan.follow s draw := by
  unfold numberGuess realPlan
  dsimp only
  split
  · show _ = (Request.answer s draw (.real _ _)).map _
    rw [Request.answer]
    cases toDouble (exampleRange b).1 with
    | error fault => rfl
    | ok low =>
        cases toDouble (exampleRange b).2 with
        | error fault => rfl
        | ok high => rfl
  · cases toDouble (exampleRange b).1 with
    | error fault => rfl
    | ok only => rfl

theorem textGuess_taken (f : Field) :
    (textGuess s f).map (Guess.taken draw) = textPlan f >>= Plan.follow s draw := by
  unfold textGuess textPlan
  cases bodyLength f with
  | error fault => rfl
  | ok length =>
      simp only [bind, Except.bind]
      split
      · rfl
      · split
        · rfl
        · simp only [Except.map, pure, Except.pure, Guess.taken, Plan.follow, Request.answer,
            surrounded, String.toList_ofList, textAround, sampleOf]

theorem guess_taken_of_literal {f : Field} {literal : Value} {rest : List Value}
    (first : f.literals.getD [] = literal :: rest) :
    (f.guess s).map (Guess.taken draw) = .ok (sampleOf literal, draw) := by
  have given : f.literals = some (literal :: rest) := by
    cases given : f.literals with
    | none => simp [given] at first
    | some literals => simpa [given] using first
  rw [guess, given]
  rfl

theorem guess_taken_of_type {f : Field} (free : f.literals.getD [] = []) :
    (f.guess s).map (Guess.taken draw) = f.typePlan >>= Plan.follow s draw := by
  rw [guess_of_free free, typePlan]
  cases f.resolvedType with
  | boolean => rfl
  | integer => exact integerGuess_taken s draw f.bounds
  | number => exact numberGuess_taken s draw f.bounds
  | array => rfl
  | object => rfl
  | file => rfl
  | string => exact textGuess_taken s draw f
  | other name => exact textGuess_taken s draw f

theorem enrich_eq_taken {f : Field} (bare : f.sample = none) :
    f.enrich s draw = ((f.guess s).map (Guess.taken draw)).map fun made =>
      ({ f with sample := made.1 }, made.2) := by
  rw [enrich, bare]
  rcases f.guess s with fault | value | value <;> rfl

/-- To enrich a field is to follow its plan, whatever the source is. -/
theorem enrich_eq_follow (f : Field) :
    f.enrich s draw =
      (f.plan >>= Plan.follow s draw).map fun made => ({ f with sample := made.1 }, made.2) := by
  cases given : f.sample with
  | some value =>
      have kept : { f with sample := some value } = f := by rw [← given]
      rw [enrich, plan, given]
      exact congrArg (fun field => Except.ok (field, draw)) kept.symm
  | none =>
      rw [enrich_eq_taken s draw given, plan, given]
      cases first : f.literals.getD [] with
      | nil => exact congrArg _ (guess_taken_of_type s draw first)
      | cons literal rest => exact congrArg _ (guess_taken_of_literal s draw first)

end

/-! What is asked for. -/

section

variable {f : Field} {b : Bounds} {plan_ : Plan}

theorem isProper_integerPlan (finite : b.IsFinite) (planned : integerPlan b = .ok plan_) :
    plan_.IsProper := by
  have low := Number.integerPart_eq_ok (isFinite_range finite).1
  have high := Number.integerPart_eq_ok (isFinite_range finite).2
  rw [integerPlan, low, high] at planned
  cases planned
  exact Plan.isProper_asks.mpr (firstDraw_le_lastDraw finite)

theorem isProper_realPlan (finite : b.IsFinite) (planned : realPlan b = .ok plan_) :
    plan_.IsProper := by
  obtain ⟨low, high⟩ := isFinite_range finite
  unfold realPlan at planned
  split at planned
  · rename_i below
    cases planned
    exact Plan.isProper_asks.mpr ⟨low, high, (Number.lt_iff low high).mp below⟩
  · obtain ⟨only, -, rfl⟩ := Outcome.ok_of_map planned
    exact Plan.isProper_settled _

theorem isProper_textPlan (planned : textPlan f = .ok plan_) : plan_.IsProper := by
  obtain ⟨length, -, planned⟩ := Outcome.ok_of_bind planned
  split at planned
  · cases planned
    exact Plan.isProper_settled _
  · rename_i room
    have positive := Nat.pos_of_ne_zero room
    split at planned
    · cases planned
      exact Plan.isProper_asks.mpr positive
    · rename_i some_
      cases planned
      exact Plan.isProper_asks.mpr ⟨mt List.isEmpty_iff.mpr some_, positive⟩

theorem isProper_typePlan (finite : f.bounds.IsFinite) (planned : f.typePlan = .ok plan_) :
    plan_.IsProper := by
  rw [typePlan] at planned
  cases typed : f.resolvedType with
  | integer => exact isProper_integerPlan finite (by rwa [typed] at planned)
  | number => exact isProper_realPlan finite (by rwa [typed] at planned)
  | string => exact isProper_textPlan (by rwa [typed] at planned)
  | other name => exact isProper_textPlan (by rwa [typed] at planned)
  | file =>
      rw [typed] at planned
      cases planned
      exact Plan.isProper_asks.mpr trivial
  | boolean | array | object =>
      rw [typed] at planned
      cases planned
      exact Plan.isProper_settled _

theorem isProper_plan (finite : f.bounds.IsFinite) (planned : f.plan = .ok plan_) :
    plan_.IsProper := by
  unfold plan at planned
  split at planned
  · cases planned
    exact Plan.isProper_settled _
  · cases planned
    exact Plan.isProper_settled _
  · exact isProper_typePlan finite planned

end

end Field

/-! Moduli of the source that counts. -/

namespace Sampler

variable (modulus : Int → Int → Int)

def rotateBy {α : Type} (items : List α) (draw : Int) (count : Nat) : List α :=
  (List.range count).filterMap fun i => items[(modulus (draw + (i : Nat)) items.length).toNat]?

/-- The source that counts, with all that it takes modulo a range left to a parameter. -/
def countingBy (locale : String) : Sampler :=
  { counting locale with
    integer := fun low high draw => low + modulus draw (high - low + 1)
    real := fun low high draw =>
      low.add ((high.sub low).mul (.round false (modulus draw (8 : Nat)).toNat 8))
    choose := fun from_ count draw => rotateBy modulus from_ draw count
    letters := fun count draw => String.ofList (rotateBy modulus alphabet draw count) }

theorem countingBy_emod (locale : String) : countingBy (· % ·) locale = counting locale := rfl

variable {modulus} (agrees : ∀ n range, 0 < range → modulus n range = n % range)
include agrees

theorem rotateBy_eq {α : Type} {items : List α} (some_ : items ≠ []) (draw : Int) (count : Nat) :
    rotateBy modulus items draw count = rotate items draw count := by
  have positive : 0 < (items.length : Int) := by
    exact_mod_cast List.length_pos_iff.mpr some_
  simp only [rotateBy, rotate, index, agrees _ _ positive]

/-- A proper request is answered without a modulus by zero or less. -/
theorem answer_countingBy {request : Request} (proper : request.IsProper) (locale : String)
    (draw : Int) :
    request.answer (countingBy modulus locale) draw = request.answer (counting locale) draw := by
  cases request with
  | integer low high =>
      have ordered : low ≤ high := proper
      have drawn : low + modulus draw (high - low + 1) = low + draw % (high - low + 1) := by
        rw [agrees draw _ (by omega)]
      exact congrArg (fun n => Except.ok (Value.int n)) drawn
  | real low high =>
      have eighth : modulus draw (8 : Nat) = draw % (8 : Nat) := agrees draw _ (by decide)
      simp only [Request.answer, countingBy, counting, interpolate, index, eighth]
  | choose items count =>
      simp only [Request.answer, countingBy, counting, rotateBy_eq agrees proper.1]
  | letters count =>
      have some_ : alphabet ≠ [] := by decide
      simp only [Request.answer, countingBy, counting, rotateBy_eq agrees some_]
  | fileName extension => rfl

end Sampler

namespace Field

theorem enrich_countingBy {f : Field} (finite : f.bounds.IsFinite) {modulus : Int → Int → Int}
    (agrees : ∀ n range, 0 < range → modulus n range = n % range) (locale : String) (draw : Int) :
    f.enrich (.countingBy modulus locale) draw = f.enrich (.counting locale) draw := by
  rw [enrich_eq_follow, enrich_eq_follow]
  cases planned : f.plan with
  | error fault => rfl
  | ok plan_ =>
      refine congrArg (Except.map _) (Plan.follow_congr fun request asked => ?_)
      have proper := isProper_plan finite planned request asked
      exact Sampler.answer_countingBy agrees proper locale draw

/-- With finite bounds of any kind, a source is asked at most once for the example of a field, and
only for what there is: an integer or a number of a range that is not empty, one or more of a list
with items, or one or more letters. So the source that counts takes no modulus by zero or less: it
does not matter what that would be. -/
theorem enrich_asks_properly {f : Field} (finite : f.bounds.IsFinite) :
    (∀ request ∈ f.request?, request.IsProper) ∧
      (∀ s draw, f.enrich s draw =
        (f.plan >>= Plan.follow s draw).map fun made => ({ f with sample := made.1 }, made.2)) ∧
      ∀ modulus : Int → Int → Int, (∀ n range, 0 < range → modulus n range = n % range) →
        ∀ locale draw,
          f.enrich (.countingBy modulus locale) draw = f.enrich (.counting locale) draw := by
  refine ⟨fun request asked => ?_, fun s draw => enrich_eq_follow s draw f,
    fun modulus agrees locale draw => enrich_countingBy finite agrees locale draw⟩
  unfold request? at asked
  split at asked
  · cases asked
  · rename_i plan_ planned
    exact isProper_plan finite planned request asked

/-- Above 2.5 and below 1. -/
def reversed : Field where
  name := "reversed"
  type := some .integer
  bounds :=
    { min := some (.real (.finite false 5629499534213120 (-51)))
      max := some (.int 1)
      exclusiveMin := true
      exclusiveMax := true }

def guardedModulus (n range : Int) : Int :=
  if 0 < range then n % range else 1000

/-- The lower end is moved to 3.5, and the upper one, which would be 0, is lifted to it. -/
theorem reversed_asks_properly :
    reversed.bounds.IsFinite ∧ reversed.request? = some (.integer 3 3) ∧
      (Request.integer 3 3).IsProper ∧
      (∀ n range, 0 < range → guardedModulus n range = n % range) ∧
      reversed.enrich (.countingBy guardedModulus "en_US") 5 =
        .ok ({ reversed with sample := some (.int 3) }, 6) := by
  have finite : reversed.bounds.IsFinite := ⟨by decide, by decide⟩
  have agrees : ∀ n range, 0 < range → guardedModulus n range = n % range :=
    fun n range positive => if_pos positive
  have asked : reversed.request? = some (.integer 3 3) := by decide +kernel
  obtain ⟨proper, _, same⟩ := enrich_asks_properly finite
  exact ⟨finite, asked, proper _ asked, agrees, same guardedModulus agrees "en_US" 5⟩

end Field
end RouteDocs
