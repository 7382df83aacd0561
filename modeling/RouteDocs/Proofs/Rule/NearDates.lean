import RouteDocs.Proofs.Calendar.Stamp
import RouteDocs.Proofs.Rule.Spelling
import RouteDocs.Proofs.Text.Case
import RouteDocs.Proofs.Text.Pieces

/-!
Rules for dates before, on and after another date. The example that such a rule sets is read back
as the date that it stands for, so that it is its own example wherever it is asked for as a date.
-/

namespace RouteDocs

/-! What a date is moved to, and what is read as one. -/

namespace Moment

variable {m moved : Moment} {days : Int}

theorem addDays?_eq_some_iff :
    m.addDays? days = some moved ↔
      ∃ date, m.date.addDays? days = some date ∧ moved = { m with date } := by
  rw [addDays?, Option.map_eq_some_iff]
  exact exists_congr fun date => and_congr_right fun _ => eq_comm

theorem addDays?_neg (found : m.addDays? days = some moved) :
    moved.addDays? (-days) = some m := by
  obtain ⟨date, added, rfl⟩ := addDays?_eq_some_iff.mp found
  exact addDays?_eq_some_iff.mpr ⟨m.date, Date.addDays?_neg added, rfl⟩

theorem addDays?_zero (m : Moment) : m.addDays? 0 = some m :=
  addDays?_eq_some_iff.mpr ⟨m.date, m.date.addDays?_zero, rfl⟩

end Moment

namespace Rule

theorem shift_eq_ok_iff {m moved : Moment} {days : Int} :
    shift m days = .ok moved ↔ m.addDays? days = some moved := by
  unfold shift
  cases m.addDays? days <;> simp

theorem map_shift_eq_ok_iff {m moved : Moment} {days : Int} :
    (shift m days).map some = .ok (some moved) ↔ m.addDays? days = some moved := by
  unfold shift
  cases m.addDays? days <;> simp [Except.map]

variable {s : Setting} {text : String} {now r moved : Moment} {days : Int}

/-- A text that begins with a digit is none of the four words. -/
theorem referenceDate_of_digit {c : Char} {rest : List Char} (digit : c.isDigit = true)
    (ascii : Text.IsAscii (c :: rest)) (trimmed : Text.trimChars (c :: rest) = c :: rest)
    (now : Moment) :
    referenceDate (String.ofList (c :: rest)) now =
      .ok (Iso.read? (String.ofList (c :: rest))) := by
  have trim : Text.trim (String.ofList (c :: rest)) = String.ofList (c :: rest) := by
    rw [Text.trim, String.toList_ofList, trimmed]
  have other : ∀ (word : String) (d : Char), word.toList.head? = some d → d.isDigit = false →
      (Text.lower (String.ofList (c :: rest)) == word) = false := by
    intro word d first letter
    refine beq_false_of_ne fun same => ?_
    subst same
    have lowered : (Text.lower (String.ofList (c :: rest))).toList =
        (c :: rest).map Char.toLower := by
      rw [Text.lower, String.toList_ofList, String.toList_ofList, Text.lowerChars_ascii ascii]
    rw [lowered] at first
    have same : c = d := by simpa [Text.toLower_of_isDigit digit] using first
    rw [← same, digit] at letter
    cases letter
  unfold referenceDate
  dsimp only
  rw [trim, other "now" 'n' rfl rfl, other "today" 't' rfl rfl, other "tomorrow" 't' rfl rfl,
    other "yesterday" 'y' rfl rfl]
  rfl

theorem referenceDate_stamp {m : Moment} (whole : m.microsecond = 0) (naive : m.offset = none)
    (now : Moment) :
    referenceDate (String.ofList m.stamp) now = .ok (some m) := by
  obtain ⟨c, rest, written⟩ := List.exists_cons_of_ne_nil m.stamp_ne_nil
  have digit : c.isDigit = true := m.digit_head_stamp c (by rw [written]; rfl)
  have blank : ∀ d : Char, d.isDigit = true → Text.isBlank d = false := fun d digit =>
    (Text.not_isBlank_of_isAlphanum (Text.isAlphanum_of_isDigit digit)).1
  have trimmed : Text.trimChars m.stamp = m.stamp :=
    Text.trimChars_eq_self_iff.mpr ⟨fun d first => blank d (m.digit_head_stamp d first),
      fun d last => blank d (m.digit_last_stamp d last)⟩
  have ascii : Text.IsAscii m.stamp := by
    intro d member
    rcases Moment.mem_stamp member with digit | mark
    · exact Text.toNat_lt_of_isAlphanum (Text.isAlphanum_of_isDigit digit)
    · have marks : ∀ mark ∈ ['-', ' ', ':'], mark.toNat < 128 := by simp
      exact marks d mark
  have read := Moment.read?_stamp whole naive
  rw [written] at trimmed ascii read ⊢
  rw [referenceDate_of_digit digit ascii trimmed, read]

/-- From the year 1000 on, an example is read back as the date that it was written for. -/
theorem referenceDate_dateExample {m : Moment} (whole : m.microsecond = 0)
    (naive : m.offset = none) (late : 1000 ≤ m.date.year) (now : Moment) :
    referenceDate (dateExample m) now = .ok (some m) := by
  rw [dateExample, Moment.formatChars_stamp late, referenceDate_stamp whole naive]

/-! The rules. -/

/-- The names of the rules, and how many days after the date that they name their examples are. -/
inductive DateRule : String → Int → Prop
  | after : DateRule "after" 1
  | before : DateRule "before" (-1)
  | afterOrEqual : DateRule "after_or_equal" 0
  | beforeOrEqual : DateRule "before_or_equal" 0
  | equals : DateRule "date_equals" 0

theorem DateRule.known {name : String} (dated : DateRule name days) :
    ∃ rule, find? name = some rule ∧ rule.arity = 1 ∧ rule.effect = .nearDate days := by
  cases dated <;> exact ⟨_, rfl, rfl, rfl⟩

/-- Whatever was read before, the rule leaves the text as the example. -/
def SetsExample (s : Setting) (call : Call) (text : String) : Prop :=
  ∀ reading : Reading, ∃ after, reading.applyCall s call = .ok after ∧
    after.field.sample = some (.text text)

theorem Effect.apply_nearDate (read : referenceDate text now = .ok (some r))
    (shifted : shift r days = .ok moved) (others : List String) (sampler : Sampler) (draw : Int)
    (f : Field) :
    (Effect.nearDate days).apply sampler now (text :: others) draw f =
      .ok { f with type := some .string, sample := some (.text (dateExample moved)) } := by
  have written : (Effect.nearDate days).writtenSample (text :: others) now =
      .ok (some (dateExample moved)) := by
    rw [writtenSample, List.getD_cons_zero, read]
    show (shift r days).bind _ = _
    rw [shifted]
    rfl
  rw [apply, written]
  rfl

theorem DateRule.setsExample {name : String} (dated : DateRule name days)
    (read : referenceDate text s.now = .ok (some r)) (added : r.addDays? days = some moved)
    (others : List String) : SetsExample s ⟨name, text :: others⟩ (dateExample moved) := by
  intro reading
  obtain ⟨rule, known, arity, effect⟩ := dated.known
  have enough : ¬(text :: others).length < rule.arity := by
    rw [arity, List.length_cons]
    omega
  rw [Reading.applyCall, known]
  dsimp only
  rw [if_neg enough, effect, Effect.apply_nearDate read (shift_eq_ok_iff.mpr added)]
  exact ⟨_, rfl, rfl⟩

/-! The words. -/

theorem referenceDate_today (now : Moment) :
    referenceDate "today" now = .ok (some now.midnight) := by
  rfl

theorem referenceDate_yesterday_iff :
    referenceDate "yesterday" now = .ok (some r) ↔ now.midnight.addDays? (-1) = some r :=
  map_shift_eq_ok_iff

theorem referenceDate_tomorrow_iff :
    referenceDate "tomorrow" now = .ok (some r) ↔ now.midnight.addDays? 1 = some r :=
  map_shift_eq_ok_iff

/-- The day after yesterday is the day before tomorrow, and both are today. -/
theorem setsExample_around_today {yesterday tomorrow : Moment}
    (before : referenceDate "yesterday" s.now = .ok (some yesterday))
    (behind : referenceDate "tomorrow" s.now = .ok (some tomorrow)) :
    SetsExample s (.ofToken "after:yesterday") (dateExample s.now.midnight) ∧
      SetsExample s (.ofToken "before:tomorrow") (dateExample s.now.midnight) ∧
      SetsExample s (.ofToken "date_equals:today") (dateExample s.now.midnight) := by
  have forth := Moment.addDays?_neg (referenceDate_yesterday_iff.mp before)
  have back := Moment.addDays?_neg (referenceDate_tomorrow_iff.mp behind)
  exact ⟨DateRule.after.setsExample before forth [], DateRule.before.setsExample behind back [],
    DateRule.equals.setsExample (referenceDate_today s.now) (Moment.addDays?_zero _) []⟩

/-- From the year 1000 on, the example of a date rule is read back as the date that it stands for,
and so it is its own example. -/
theorem date_example_read_back (s : Setting) :
    (∀ name days text others r moved, DateRule name days →
      referenceDate text s.now = .ok (some r) → r.offset = none → r.microsecond = 0 →
      r.addDays? days = some moved → 1000 ≤ moved.date.year →
        SetsExample s ⟨name, text :: others⟩ (dateExample moved) ∧
          ∀ other : Setting, referenceDate (dateExample moved) other.now = .ok (some moved) ∧
            SetsExample other ⟨"date_equals", [dateExample moved]⟩ (dateExample moved)) ∧
      ∀ yesterday tomorrow, referenceDate "yesterday" s.now = .ok (some yesterday) →
        referenceDate "tomorrow" s.now = .ok (some tomorrow) →
          SetsExample s (.ofToken "after:yesterday") (dateExample s.now.midnight) ∧
            SetsExample s (.ofToken "before:tomorrow") (dateExample s.now.midnight) ∧
            SetsExample s (.ofToken "date_equals:today") (dateExample s.now.midnight) := by
  refine ⟨?_, fun _ _ => setsExample_around_today⟩
  intro name days text others r moved dated read naive whole added late
  obtain ⟨date, _, made⟩ := Moment.addDays?_eq_some_iff.mp added
  have stillWhole : moved.microsecond = 0 := by rw [made, ← whole]
  have stillNaive : moved.offset = none := by rw [made, ← naive]
  have again := referenceDate_dateExample stillWhole stillNaive late
  exact ⟨dated.setsExample read added others, fun other => ⟨again other.now,
    DateRule.equals.setsExample (again other.now) (Moment.addDays?_zero _) []⟩⟩

/-- Before and after the leap day. -/
theorem date_example_read_back_leap_day :
    SetsExample plainSetting ⟨"before", ["20240301T08:05"]⟩ "2024-02-29 08:05:00" ∧
      referenceDate "2024-02-29 08:05:00" plainSetting.now =
        .ok (some { date := { year := 2024, month := 2, day := 29 }, hour := 8, minute := 5 }) ∧
      SetsExample plainSetting (.ofToken "after:yesterday") "2024-02-29 00:00:00" ∧
      SetsExample plainSetting (.ofToken "before:tomorrow") "2024-02-29 00:00:00" := by
  obtain ⟨examples, words⟩ := date_example_read_back plainSetting
  obtain ⟨sets, again⟩ := examples "before" (-1) "20240301T08:05" []
    { date := { year := 2024, month := 3, day := 1 }, hour := 8, minute := 5 }
    { date := { year := 2024, month := 2, day := 29 }, hour := 8, minute := 5 }
    .before rfl rfl rfl (by decide) (by decide)
  obtain ⟨after, before, _⟩ := words
    { date := { year := 2024, month := 2, day := 28 } }
    { date := { year := 2024, month := 3, day := 1 } }
    (referenceDate_yesterday_iff.mpr (by decide)) (referenceDate_tomorrow_iff.mpr (by decide))
  exact ⟨sets, (again plainSetting).1, after, before⟩

end Rule
end RouteDocs
