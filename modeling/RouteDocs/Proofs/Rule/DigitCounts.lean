import RouteDocs.Proofs.Field.IntegerSample
import RouteDocs.Proofs.Number.Decimal
import RouteDocs.Proofs.Rule.Rereading

/-!
Rules that count digits. A natural number keeps to the bounds that such a rule sets exactly if it
has as many digits as the rule allows, and so has every example of the field.
-/

namespace RouteDocs.Rule

open Double (decimalLength)

/-! Natural numbers and how many digits they have. -/

theorem lt_decimalLength_iff {k m : Nat} : k < decimalLength m ↔ k = 0 ∨ 10 ^ k ≤ m := by
  rcases k.eq_zero_or_pos with rfl | positive
  · exact iff_of_true Nat.length_toDigits_pos (.inl rfl)
  · have fewer : decimalLength m ≤ k ↔ m < 10 ^ k :=
      Nat.length_toDigits_le_iff (by decide) positive
    rw [← not_le, fewer, not_lt, or_iff_right positive.ne']

theorem leastWithDigits_succ (k : Nat) :
    leastWithDigits (k + 1 : Nat) = if k = 0 then 0 else ((10 ^ k : Nat) : Int) := by
  unfold leastWithDigits
  by_cases zero : k = 0
  · rw [if_pos zero, if_neg (by omega)]
  · have length : (((k + 1 : Nat) : Int) - 1).toNat = k := by omega
    rw [if_neg zero, if_pos (by omega), length]
    rfl

/-- One digit includes zero. -/
theorem leastWithDigits_le_iff {n m : Nat} :
    leastWithDigits n ≤ (m : Int) ↔ n ≤ decimalLength m := by
  cases n with
  | zero => exact iff_of_true (Int.natCast_nonneg m) (Nat.zero_le _)
  | succ k =>
      rw [Nat.succ_le_iff, lt_decimalLength_iff, leastWithDigits_succ]
      split
      · rename_i zero
        exact iff_of_true (Int.natCast_nonneg m) (.inl zero)
      · rename_i several
        rw [Int.ofNat_le, or_iff_right several]

theorem leastWithDigits_nonneg (length : Int) : 0 ≤ leastWithDigits length := by
  unfold leastWithDigits
  split
  · exact Int.natCast_nonneg _
  · exact le_rfl

theorem greatestWithDigits_natCast (n : Nat) :
    greatestWithDigits n = .ok (.int (Int.ofNat (Nat.pow 10 n) - 1)) :=
  if_pos (Int.natCast_nonneg n)

theorem le_greatest_iff {n m : Nat} (positive : 0 < n) :
    (m : Int) ≤ Int.ofNat (Nat.pow 10 n) - 1 ↔ decimalLength m ≤ n := by
  have fewer : decimalLength m ≤ n ↔ m < 10 ^ n :=
    Nat.length_toDigits_le_iff (by decide) positive
  rw [fewer, Int.le_sub_one_iff]
  exact Int.ofNat_lt

theorem exists_decimalLength (k : Nat) : ∃ m, decimalLength m = k + 1 := by
  have most : decimalLength (10 ^ k) ≤ k + 1 :=
    (Nat.length_toDigits_le_iff (by decide) k.succ_pos).mpr
      (Nat.pow_lt_pow_right (by decide) k.lt_succ_self)
  exact ⟨10 ^ k, Nat.le_antisymm most (lt_decimalLength_iff.mpr (.inr le_rfl))⟩

/-! Bounds for the number of digits. -/

/-- The bounds for numbers of digits, as far as these are given. -/
def digitBounds (least most : Option Nat) : Bounds where
  min := least.map fun n => .int (leastWithDigits n)
  max := most.map fun n => .int (Int.ofNat (Nat.pow 10 n) - 1)

/-- At least and at most so many, as far as these are given. -/
def Within (least most : Option Nat) (count : Nat) : Prop :=
  (∀ n ∈ least, n ≤ count) ∧ ∀ n ∈ most, count ≤ n

/-- There are numbers of digits between these. -/
structure Lengths (least most : Option Nat) : Prop where
  positive : ∀ n ∈ most, 0 < n
  ordered : ∀ n ∈ least, ∀ m ∈ most, n ≤ m

theorem Lengths.between {n m : Nat} (positive : 0 < n) (ordered : n ≤ m) :
    Lengths (some n) (some m) where
  positive := by
    rintro _ ⟨⟩
    exact Nat.lt_of_lt_of_le positive ordered
  ordered := by
    rintro _ ⟨⟩ _ ⟨⟩
    exact ordered

section

variable {least most : Option Nat}

theorem setDigits_natCast :
    Effect.setDigits (least.map fun n : Nat => .int n) (most.map fun n : Nat => .int n) {} =
      .ok (digitBounds least most) := by
  cases most with
  | none => cases least <;> rfl
  | some n =>
      cases least <;>
        simp [Effect.setDigits, digitBounds, integerPart, greatestWithDigits_natCast, bind,
          Except.bind, pure, Except.pure]

theorem digitBounds_isInt (least most : Option Nat) : (digitBounds least most).IsInt where
  low low given := by
    obtain ⟨n, _, rfl⟩ := Option.map_eq_some_iff.mp given
    exact ⟨_, rfl⟩
  high high given := by
    obtain ⟨n, _, rfl⟩ := Option.map_eq_some_iff.mp given
    exact ⟨_, rfl⟩

theorem digitBounds_lowAdmits_iff {m : Nat} :
    (digitBounds least most).LowAdmits m ↔ ∀ n ∈ least, n ≤ decimalLength m := by
  cases least with
  | none => exact iff_of_true (Bounds.lowAdmits_of_none rfl) nofun
  | some n =>
      have bound : (digitBounds (some n) most).min = some (.int (leastWithDigits n)) := rfl
      have closed : (digitBounds (some n) most).exclusiveMin = false := rfl
      rw [Bounds.lowAdmits_int bound, closed]
      simp [leastWithDigits_le_iff]

theorem digitBounds_highAdmits_iff (positive : ∀ n ∈ most, 0 < n) {m : Nat} :
    (digitBounds least most).HighAdmits m ↔ ∀ n ∈ most, decimalLength m ≤ n := by
  cases most with
  | none => exact iff_of_true (Bounds.highAdmits_of_none rfl) nofun
  | some n =>
      have bound : (digitBounds least (some n)).max =
        some (.int (Int.ofNat (Nat.pow 10 n) - 1)) := rfl
      have closed : (digitBounds least (some n)).exclusiveMax = false := rfl
      rw [Bounds.highAdmits_int bound, closed, if_neg Bool.false_ne_true, Int.sub_zero,
        le_greatest_iff (positive n rfl)]
      simp

theorem Lengths.admits_iff (lengths : Lengths least most) {m : Nat} :
    (digitBounds least most).Admits m ↔ Within least most (decimalLength m) :=
  and_congr digitBounds_lowAdmits_iff (digitBounds_highAdmits_iff lengths.positive)

theorem Lengths.exists_admits (lengths : Lengths least most) :
    ∃ n, (digitBounds least most).Admits n := by
  obtain ⟨m, length⟩ := exists_decimalLength (least.getD 1 - 1)
  refine ⟨m, lengths.admits_iff.mpr ⟨fun n given => ?_, fun n given => ?_⟩⟩
  · rw [length, given, Option.getD_some]
    omega
  · have positive := lengths.positive n given
    rw [length]
    cases low : least with
    | none => exact positive
    | some k =>
        have ordered := lengths.ordered k low n given
        rw [Option.getD_some]
        omega

theorem zero_le_firstDraw : 0 ≤ Field.firstDraw (digitBounds least most) := by
  obtain ⟨low, first, given⟩ := Field.firstDraw_int (digitBounds_isInt least most)
  cases least with
  | none =>
      cases given
      exact first.ge
  | some n =>
      cases given
      rw [first]
      exact Int.add_nonneg (leastWithDigits_nonneg n) le_rfl

theorem Lengths.enrich (lengths : Lengths least most) {f : Field}
    (bounds : f.bounds = digitBounds least most) (typed : f.type = some .integer)
    (free : f.literals = none) (bare : f.sample = none) {source : Sampler}
    (between : source.DrawsBetween) (draw : Int) :
    ∃ m : Nat, f.enrich source draw = .ok ({ f with sample := some (.int m) }, draw + 1) ∧
      Within least most (decimalLength m) := by
  have integers := digitBounds_isInt least most
  have resolved : f.resolvedType = .integer := by
    rw [Field.resolvedType, typed]
    rfl
  have low := Field.lowAdmits_firstDraw_int integers
  have high : (digitBounds least most).HighAdmits (Field.lastDraw (digitBounds least most)) := by
    refine (Field.highAdmits_lastDraw_int integers lengths.exists_admits).mpr fun none_ => ?_
    -- Zero has no more digits than any upper length.
    cases least with
    | some n => cases none_
    | none => exact lengths.admits_iff.mpr ⟨nofun, lengths.positive⟩
  obtain ⟨n, made, after, before⟩ := Field.enrich_between resolved (by rw [free]; rfl) bare
    (bounds ▸ integers.isFinite) between draw
  rw [bounds] at after before
  obtain ⟨m, rfl⟩ := Int.eq_ofNat_of_zero_le (zero_le_firstDraw.trans after)
  exact ⟨m, made, lengths.admits_iff.mp (integers.isFinite.admits_between low high after before)⟩

end

/-! Reading the rules. -/

/-- The least and the greatest number of digits, if the rule counts digits. -/
def Effect.lengths? (parameters : List String) :
    Effect → Option (Option Number × Option Number)
  | digits => some (number? parameters 0, number? parameters 0)
  | digitsBetween => some (number? parameters 0, number? parameters 1)
  | minDigits => some (number? parameters 0, none)
  | maxDigits => some (none, number? parameters 0)
  | _ => none

/-- Nothing is said but the type and the bounds. -/
theorem Effect.apply_digits {effect : Effect} {parameters : List String} {low high : Option Number}
    (counts : effect.lengths? parameters = some (low, high)) (sampler : Sampler) (now : Moment)
    (draw : Int) (f : Field) :
    effect.apply sampler now parameters draw f =
      (setDigits low high f.bounds).map fun bounds =>
        { f with type := some .integer, bounds } := by
  have bounded : effect.bounds parameters f.bounds = setDigits low high f.bounds := by
    cases effect <;> cases counts <;> rfl
  rw [apply, bounded]
  cases setDigits low high f.bounds with
  | error fault => rfl
  | ok bounds => cases effect <;> cases counts <;> rfl

theorem canonical_of_decimals {name : String} {rule : Rule} (known : find? name = some rule)
    (list : isPatternRule name.toList = false) {parameters : List String}
    (decimals : ∀ parameter ∈ parameters, ∃ n, Decimal parameter n) :
    Call.Canonical { name, parameters } where
  name := plainName_of_find? known
  pattern pattern := by
    rw [list] at pattern
    cases pattern
  parameters _ parameter member := by
    obtain ⟨n, written⟩ := decimals parameter member
    refine ⟨fun comma => ?_, fun bar => ?_, Literal.trimChars_digits written.digits⟩
    · cases written.digits _ comma
    · cases written.digits _ bar

theorem calls_text_toToken {call : Call} (canonical : call.Canonical) :
    (Given.text call.toToken).calls = [call] := by
  rw [Given.calls, Given.items, canonical.tokens_toToken, List.map_singleton,
    List.filterMap_cons, canonical.call?_toToken]
  rfl

/-- Whatever the text is read by, it gives integers with these numbers of digits. -/
def CountsDigits (text : String) (least most : Option Nat) : Prop :=
  ∀ s name draw, ∃ r messages rules, read s name (.text text) draw = (r, none) ∧
    r.field = { name, type := some .integer, bounds := digitBounds least most, messages, rules }

theorem countsDigits_of_decimals {name front : String} {parameters : List String} {rule : Rule}
    {least most : Option Nat} (spelled : name ++ ":" = front) (known : find? name = some rule)
    (list : isPatternRule name.toList = false) (some_ : parameters ≠ [])
    (enough : rule.arity ≤ parameters.length)
    (decimals : ∀ parameter ∈ parameters, ∃ n, Decimal parameter n)
    (counts : rule.effect.lengths? parameters =
      some (least.map fun n : Nat => .int n, most.map fun n : Nat => .int n)) :
    CountsDigits (front ++ Text.join "," parameters) least most := by
  intro s field draw
  have canonical := canonical_of_decimals known list decimals
  have text : front ++ Text.join "," parameters = Call.toToken { name, parameters } := by
    rw [Call.toToken, if_neg (by simpa using some_), spelled]
  have applied : ∃ r, Reading.applyCalls s { field := { name := field }, draw }
        (Given.text (front ++ Text.join "," parameters)).calls = .ok r ∧
      ∃ messages rules, r.field =
        { name := field, type := some .integer, bounds := digitBounds least most
          messages, rules } := by
    rw [text, calls_text_toToken canonical, Reading.applyCalls_singleton, Reading.applyCall, known]
    dsimp only
    rw [if_neg (Nat.not_lt_of_le enough), Effect.apply_digits counts, setDigits_natCast]
    exact ⟨_, rfl, _, _, rfl⟩
  obtain ⟨r, applied, messages, rules, made⟩ := applied
  exact ⟨r, messages, rules, (read_written_iff (.text _)).mpr applied, made⟩

theorem number?_decimal {parameters : List String} {place n : Nat} {text : String}
    (found : parameters[place]? = some text) (written : Decimal text n) :
    number? parameters place = some (.int n) := by
  rw [number?, found, Option.bind_some, written.ofText?]

theorem countsDigits_single {name front text : String} {rule : Rule} {n : Nat}
    {least most : Option Nat} (spelled : name ++ ":" = front) (known : find? name = some rule)
    (list : isPatternRule name.toList = false) (enough : rule.arity ≤ 1) (written : Decimal text n)
    (counts : number? [text] 0 = some (.int n) → rule.effect.lengths? [text] =
      some (least.map fun n : Nat => .int n, most.map fun n : Nat => .int n)) :
    CountsDigits (front ++ text) least most := by
  have single : Text.join "," [text] = text := rfl
  rw [← single]
  exact countsDigits_of_decimals spelled known list (List.cons_ne_nil text []) enough
    (by simpa using ⟨n, written⟩) (counts (number?_decimal rfl written))

/-- The rules that count digits, with the numbers of digits that they allow. -/
inductive DigitRule : String → (Nat → Prop) → Prop
  | exactly {text : String} {n : Nat} (written : Decimal text n) (positive : 1 ≤ n) :
      DigitRule ("digits:" ++ text) fun count => count = n
  | between {first last : String} {low high : Nat} (writtenFirst : Decimal first low)
      (writtenLast : Decimal last high) (positive : 1 ≤ low) (ordered : low ≤ high) :
      DigitRule ("digits_between:" ++ (first ++ "," ++ last))
        fun count => low ≤ count ∧ count ≤ high
  | atLeast {text : String} {n : Nat} (written : Decimal text n) (positive : 1 ≤ n) :
      DigitRule ("min_digits:" ++ text) fun count => n ≤ count
  | atMost {text : String} {n : Nat} (written : Decimal text n) (positive : 1 ≤ n) :
      DigitRule ("max_digits:" ++ text) fun count => count ≤ n

theorem DigitRule.counts {text : String} {allowed : Nat → Prop}
    (counting : DigitRule text allowed) :
    ∃ least most, Lengths least most ∧ (∀ count, allowed count ↔ Within least most count) ∧
      CountsDigits text least most := by
  cases counting with
  | @exactly text n written positive =>
      have spelled : "digits" ++ ":" = "digits:" := rfl
      have counts : CountsDigits ("digits:" ++ text) (some n) (some n) := by
        refine countsDigits_single spelled rfl (by decide) le_rfl written fun number => ?_
        rw [Effect.lengths?, number]
        rfl
      refine ⟨some n, some n, .between positive le_rfl, fun count => ?_, counts⟩
      simp only [Within, Option.mem_some_iff, forall_eq']
      omega
  | @between first last low high writtenFirst writtenLast positive ordered =>
      have spelled : "digits_between" ++ ":" = "digits_between:" := rfl
      have joined : Text.join "," [first, last] = first ++ "," ++ last := rfl
      have lower : number? [first, last] 0 = some (.int low) := number?_decimal rfl writtenFirst
      have upper : number? [first, last] 1 = some (.int high) := number?_decimal rfl writtenLast
      have counts : CountsDigits ("digits_between:" ++ Text.join "," [first, last])
          (some low) (some high) := by
        refine countsDigits_of_decimals spelled rfl (by decide) (by simp) le_rfl ?_ ?_
        · simpa using ⟨⟨low, writtenFirst⟩, ⟨high, writtenLast⟩⟩
        · rw [Effect.lengths?, lower, upper]
          rfl
      rw [joined] at counts
      refine ⟨some low, some high, .between positive ordered, fun count => ?_, counts⟩
      simp only [Within, Option.mem_some_iff, forall_eq']
  | @atLeast text n written positive =>
      have spelled : "min_digits" ++ ":" = "min_digits:" := rfl
      have counts : CountsDigits ("min_digits:" ++ text) (some n) none := by
        refine countsDigits_single spelled rfl (by decide) le_rfl written fun number => ?_
        rw [Effect.lengths?, number]
        rfl
      exact ⟨some n, none, ⟨nofun, nofun⟩, fun count => by simp [Within], counts⟩
  | @atMost text n written positive =>
      have spelled : "max_digits" ++ ":" = "max_digits:" := rfl
      have counts : CountsDigits ("max_digits:" ++ text) none (some n) := by
        refine countsDigits_single spelled rfl (by decide) le_rfl written fun number => ?_
        rw [Effect.lengths?, number]
        rfl
      refine ⟨none, some n, ⟨?_, nofun⟩, fun count => by simp [Within], counts⟩
      rintro _ ⟨⟩
      exact positive

/-- A natural number keeps to the bounds that the rule sets exactly if it has as many digits as the
rule allows, and the example that is drawn for the field is such a number. -/
theorem digits_counted {text : String} {allowed : Nat → Prop} (counting : DigitRule text allowed)
    (s : Setting) (name : String) (draw : Int) :
    ∃ r, read s name (.text text) draw = (r, none) ∧
      (∀ m : Nat, r.field.bounds.Admits m ↔ allowed (decimalLength m)) ∧
      ∀ source : Sampler, source.DrawsBetween → ∀ next, ∃ m : Nat,
        r.field.enrich source next = .ok ({ r.field with sample := some (.int m) }, next + 1) ∧
          allowed (decimalLength m) := by
  obtain ⟨least, most, lengths, within, counts⟩ := counting.counts
  obtain ⟨r, messages, rules, succeeds, made⟩ := counts s name draw
  have bounds : r.field.bounds = digitBounds least most := by rw [made]
  refine ⟨r, succeeds, fun m => ?_, fun source between next => ?_⟩
  · rw [bounds, lengths.admits_iff, within]
  · obtain ⟨m, drawn, digits⟩ := lengths.enrich bounds (by rw [made]) (by rw [made])
      (by rw [made]) between next
    exact ⟨m, drawn, (within _).mpr digits⟩

theorem digits_counted_code :
    DigitRule "digits_between:2,3" (fun count => 2 ≤ count ∧ count ≤ 3) ∧
      ∃ r, read plainSetting "code" (.text "digits_between:2,3") 5 = (r, none) ∧
        (∀ m : Nat, r.field.bounds.Admits m ↔ 2 ≤ decimalLength m ∧ decimalLength m ≤ 3) ∧
        ∃ m : Nat, r.field.enrich (.counting "en_US") 5 =
            .ok ({ r.field with sample := some (.int m) }, 6) ∧
          2 ≤ decimalLength m ∧ decimalLength m ≤ 3 := by
  have two : Decimal "2" 2 := decimal_repr (n := 2) (by decide)
  have three : Decimal "3" 3 := decimal_repr (n := 3) (by decide)
  have counting : DigitRule "digits_between:2,3" fun count => 2 ≤ count ∧ count ≤ 3 :=
    .between two three (by decide) (by decide)
  obtain ⟨r, succeeds, admits, drawn⟩ := digits_counted counting plainSetting "code" 5
  exact ⟨counting, r, succeeds, admits, drawn _ (Sampler.drawsBetween_counting "en_US") 5⟩

end RouteDocs.Rule
