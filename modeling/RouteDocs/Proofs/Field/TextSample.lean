import RouteDocs.Field.Example
import RouteDocs.Proofs.Field.Bounds
import RouteDocs.Proofs.Field.Drawn
import RouteDocs.Proofs.Outcome

/-!
Examples of text fields: a start, a body that is drawn, and an end. The body fills the example up
to its length. Characters that are required and not in the body are written over its first ones,
whatever these are.
-/

namespace RouteDocs

theorem Text.occurs_singleton {c : Char} {s : List Char} : occurs [c] s = true ↔ c ∈ s := by
  induction s with
  | nil => simp [occurs]
  | cons d rest induction =>
      rw [occurs, Bool.or_eq_true, induction, List.mem_cons]
      simp [startsWith, dropStart?, Option.isSome_ite]

theorem Text.length_flatMap_toList {items : List String} (singles : ∀ c ∈ items, c.length = 1) :
    (items.flatMap String.toList).length = items.length := by
  have ones : items.map (fun c => c.toList.length) = items.map fun _ => 1 :=
    List.map_congr_left fun c member => by rw [String.length_toList, singles c member]
  rw [List.length_flatMap, ones]
  simp

theorem Text.exists_singleton {c : String} (single : c.length = 1) :
    ∃ d, c = String.singleton d := by
  obtain ⟨d, chars⟩ := List.length_eq_one_iff.mp (String.length_toList.trans single)
  refine ⟨d, String.toList_injective ?_⟩
  rw [chars, String.toList_singleton]

namespace Field

variable {f : Field}

def start (f : Field) : String :=
  f.startsWith.getD ""

def stop (f : Field) : String :=
  f.endsWith.getD ""

/-- The body, before required characters are written into it. -/
def body (s : Sampler) (characters : List String) (length : Nat) (draw : Int) : List Char :=
  if length = 0 then []
  else if characters.isEmpty then (s.letters length draw).toList
  else (s.choose characters length draw).flatMap String.toList

theorem enrich_text (typed : f.resolvedType = .string) (free : f.literals.getD [] = [])
    (bare : f.sample = none) (s : Sampler) (draw : Int) :
    f.enrich s draw = (bodyLength f).map fun length =>
      ({ f with sample := some (textAround f (body s f.validCharacters length draw)) },
        if length = 0 then draw else draw + 1) := by
  have guessed : f.guess s = textGuess s f := by
    rw [guess_of_free free, typed]
  rw [enrich, bare, guessed]
  unfold textGuess
  cases bodyLength f with
  | error fault => rfl
  | ok length =>
      by_cases empty : length = 0
      · subst empty
        rfl
      · simp only [bind, Except.bind, Except.map, body, if_neg empty]
        by_cases none_ : f.validCharacters.isEmpty = true
        · simp only [if_pos none_]
          rfl
        · simp only [if_neg none_]
          rfl

/-! The length of an example. -/

/-- The default, or the lower bound if that is more. -/
def lengthFrom (low : Option Number) : Except Fault Int :=
  match low with
  | none => pure defaultLength
  | some low => do pure (max defaultLength (← Rule.integerPart low))

def lengthUpTo (high : Option Number) (length : Int) : Except Fault Int :=
  match high with
  | none => pure length
  | some high => do pure (min length (← Rule.integerPart high))

theorem bodyLength_eq (f : Field) :
    bodyLength f = (do
      let least ← lengthFrom f.bounds.min
      let length ← lengthUpTo f.bounds.max least
      pure (length - f.start.length - f.stop.length).toNat) := by
  unfold bodyLength lengthFrom lengthUpTo
  rcases f.bounds.min with _ | low
  · rcases f.bounds.max with _ | high
    · rfl
    · dsimp only
      cases Rule.integerPart high <;> rfl
  · dsimp only
    rcases Rule.integerPart low with fault | least
    · rfl
    · rcases f.bounds.max with _ | high
      · rfl
      · dsimp only
        cases Rule.integerPart high <;> rfl

/-- Without fractions, the length keeps to the bounds as far as these leave room. -/
theorem bodyLength_of_isWhole (whole : f.bounds.IsWhole)
    (ordered : ∀ low ∈ f.bounds.min, ∀ high ∈ f.bounds.max, low.value ≤ high.value) :
    ∃ length : Int,
      bodyLength f = .ok (length - f.start.length - f.stop.length).toNat ∧
        (∀ low ∈ f.bounds.min, low.value ≤ length) ∧
        ∀ high ∈ f.bounds.max, (length : ℚ) ≤ high.value := by
  obtain ⟨least, from_, above⟩ : ∃ least : Int, lengthFrom f.bounds.min = .ok least ∧
      ∀ low ∈ f.bounds.min, low.value ≤ least := by
    cases given : f.bounds.min with
    | none => exact ⟨defaultLength, rfl, nofun⟩
    | some low =>
        obtain ⟨n, part, value⟩ := (whole.low low given).exists_integerPart
        refine ⟨max defaultLength n, by rw [lengthFrom, part]; rfl, ?_⟩
        rintro _ ⟨⟩
        rw [value]
        exact_mod_cast le_max_right defaultLength n
  obtain ⟨length, upTo, above, below⟩ : ∃ length : Int,
      lengthUpTo f.bounds.max least = .ok length ∧
        (∀ low ∈ f.bounds.min, low.value ≤ length) ∧
        ∀ high ∈ f.bounds.max, (length : ℚ) ≤ high.value := by
    cases top : f.bounds.max with
    | none => exact ⟨least, rfl, above, nofun⟩
    | some high =>
        obtain ⟨n, part, value⟩ := (whole.high high top).exists_integerPart
        refine ⟨min least n, by rw [lengthUpTo, part]; rfl, fun low given => ?_, ?_⟩
        · have below := ordered low given high top
          rw [value] at below
          rw [Int.cast_min]
          exact le_min (above low given) below
        · rintro _ ⟨⟩
          rw [value]
          exact_mod_cast min_le_right least n
  refine ⟨length, ?_, above, below⟩
  rw [bodyLength_eq, from_]
  show (lengthUpTo f.bounds.max least >>= _) = _
  rw [upTo]
  rfl

/-! What is drawn for the body. -/

section

variable {s : Sampler} {characters : List String}

theorem length_body (many : s.DrawsAsMany) (singles : ∀ c ∈ characters, c.length = 1)
    (length : Nat) (draw : Int) : (body s characters length draw).length = length := by
  unfold body
  split
  · rename_i empty
    exact empty.symm
  · split
    · exact (String.length_toList).trans (many.length_letters length draw)
    · rename_i some_
      have few := many.mem_choose characters length draw
      rw [Text.length_flatMap_toList fun c member => singles c (few c member)]
      exact many.length_choose characters length draw (mt List.isEmpty_iff.mpr some_)

theorem mem_of_mem_body (many : s.DrawsAsMany) (singles : ∀ c ∈ characters, c.length = 1)
    (some_ : characters ≠ []) {length : Nat} {draw : Int} {c : Char}
    (member : c ∈ body s characters length draw) : String.singleton c ∈ characters := by
  unfold body at member
  split at member
  · cases member
  · rw [if_neg (mt List.isEmpty_iff.mp some_)] at member
    obtain ⟨text, drawn, within⟩ := List.mem_flatMap.mp member
    have listed := many.mem_choose characters length draw text drawn
    obtain ⟨d, rfl⟩ := Text.exists_singleton (singles text listed)
    rw [String.toList_singleton, List.mem_singleton] at within
    exact within ▸ listed

end

theorem insertRequired_nil (body : List Char) : insertRequired [] body = body := rfl

/-- The example of a text field starts and ends as the field says, keeps to its bounds, and has only
valid characters between. -/
theorem text_sample_conforms (typed : f.resolvedType = .string) (free : f.literals.getD [] = [])
    (bare : f.sample = none) (none_ : f.requiredCharacters = [])
    (singles : ∀ c ∈ f.validCharacters, c.length = 1) (closedLow : f.bounds.exclusiveMin = false)
    (closedHigh : f.bounds.exclusiveMax = false) (whole : f.bounds.IsWhole)
    (ordered : ∀ low ∈ f.bounds.min, ∀ high ∈ f.bounds.max, high.lt low = false)
    (room : ∀ high ∈ f.bounds.max, high.lt (.int (f.start.length + f.stop.length)) = false)
    {s : Sampler} (many : s.DrawsAsMany) (draw : Int) :
    ∃ body next,
      f.enrich s draw =
          .ok ({ f with sample := some (.text (f.start ++ body ++ f.stop)) }, next) ∧
        f.bounds.Admits (f.start ++ body ++ f.stop).length ∧
        (f.validCharacters ≠ [] →
          ∀ c ∈ body.toList, String.singleton c ∈ f.validCharacters) := by
  have finite := whole.isFinite
  have ordered : ∀ low ∈ f.bounds.min, ∀ high ∈ f.bounds.max, low.value ≤ high.value := by
    intro low given high top
    rw [← not_lt, ← Number.lt_iff (finite.high high top) (finite.low low given),
      ordered low given high top]
    decide
  have room : ∀ high ∈ f.bounds.max, ((f.start.length + f.stop.length : ℤ) : ℚ) ≤ high.value := by
    intro high top
    rw [← not_lt, ← Number.value_int, ← Number.lt_iff (b := .int _) (finite.high high top) trivial,
      room high top]
    decide
  obtain ⟨length, made, above, below⟩ := bodyLength_of_isWhole whole ordered
  obtain ⟨count, counted⟩ : ∃ count, count = (length - f.start.length - f.stop.length).toNat :=
    ⟨_, rfl⟩
  have size := length_body many singles count draw
  refine ⟨String.ofList (body s f.validCharacters count draw),
    if count = 0 then draw else draw + 1, ?_, ?_, fun some_ c member => ?_⟩
  · rw [enrich_text typed free bare, made, ← counted]
    simp only [Except.map, textAround, none_, insertRequired_nil]
    rfl
  · have total : ((f.start ++ String.ofList (body s f.validCharacters count draw) ++
        f.stop).length : ℤ) = max length (f.start.length + f.stop.length) := by
      rw [String.length_append, String.length_append, String.length_ofList, size, counted]
      omega
    rw [total]
    constructor
    · rw [Bounds.lowAdmits_closed_iff finite closedLow]
      intro low given
      exact (above low given).trans (by exact_mod_cast le_max_left length _)
    · rw [Bounds.highAdmits_closed_iff finite closedHigh]
      intro high top
      rw [Int.cast_max]
      exact max_le (below high top) (room high top)
  · rw [String.toList_ofList] at member
    exact mem_of_mem_body many singles some_ member

/-- A number between a fixed start and end, of 10 characters at most. -/
def invoice : Field where
  name := "ref"
  type := some .string
  bounds := { min := some (.int 2), max := some (.int 10) }
  validCharacters := ["0", "1", "2"]
  startsWith := some "INV-"
  endsWith := some "-X"

theorem invoice_sample_conforms :
    invoice.bounds.IsWhole ∧ (Sampler.counting "en_US").DrawsAsMany ∧
      ∃ body next,
        invoice.enrich (.counting "en_US") 4 =
            .ok ({ invoice with sample := some (.text ("INV-" ++ body ++ "-X")) }, next) ∧
          invoice.bounds.Admits ("INV-" ++ body ++ "-X").length ∧
          ∀ c ∈ body.toList, String.singleton c ∈ ["0", "1", "2"] := by
  have whole : invoice.bounds.IsWhole := ⟨by decide, by decide⟩
  have many := Sampler.drawsAsMany_counting "en_US"
  obtain ⟨body, next, made, admitted, valid⟩ :=
    @text_sample_conforms invoice rfl rfl rfl rfl (by decide) rfl rfl whole (by decide)
      (by decide) _ many 4
  exact ⟨whole, many, body, next, made, admitted, valid (by decide)⟩

/-! Required characters. -/

/-- The required characters that the body does not have. -/
def missing (required : List String) (body : List Char) : List String :=
  required.filter fun c => !Text.occurs c.toList body

section

variable {required : List String} {body : List Char}

theorem insertRequired_eq :
    insertRequired required body =
      (missing required body).flatMap String.toList ++
        body.drop (missing required body).length := by
  show (if (missing required body).isEmpty then body else _) = _
  split
  · rename_i none_
    rw [List.isEmpty_iff.mp none_]
    rfl
  · rfl

variable (singles : ∀ c ∈ required, c.length = 1)
include singles

theorem length_insertRequired (enough : required.length ≤ body.length) :
    (insertRequired required body).length = body.length := by
  have few : (missing required body).length ≤ body.length :=
    (List.length_filter_le _ required).trans enough
  have written : ((missing required body).flatMap String.toList).length = _ :=
    Text.length_flatMap_toList fun c member => singles c (List.mem_of_mem_filter member)
  rw [insertRequired_eq, List.length_append, List.length_drop, written]
  omega

/-- A required character that the body has stays only behind those that are written over. -/
theorem mem_insertRequired {c : Char} (member : String.singleton c ∈ required) :
    c ∈ insertRequired required body ↔
      c ∉ body ∨ c ∈ body.drop (missing required body).length := by
  have written : c ∈ (missing required body).flatMap String.toList ↔ c ∉ body := by
    rw [List.mem_flatMap]
    constructor
    · rintro ⟨text, absent, within⟩
      obtain ⟨listed, absent⟩ := List.mem_filter.mp absent
      obtain ⟨d, rfl⟩ := Text.exists_singleton (singles text listed)
      rw [String.toList_singleton, List.mem_singleton] at within
      rwa [String.toList_singleton, ← within, Bool.not_eq_true', ← Bool.not_eq_true,
        Text.occurs_singleton] at absent
    · intro absent
      refine ⟨String.singleton c, List.mem_filter.mpr ⟨member, ?_⟩, by simp⟩
      rwa [String.toList_singleton, Bool.not_eq_true', ← Bool.not_eq_true, Text.occurs_singleton]
  rw [insertRequired_eq, List.mem_append, written]

end

/-- The example is as long as without required characters. It has all of them exactly if those among
the ones that are written over are somewhere else, too. -/
theorem required_shown_iff (typed : f.resolvedType = .string) (free : f.literals.getD [] = [])
    (bare : f.sample = none) (singles : ∀ c ∈ f.requiredCharacters, c.length = 1) {s : Sampler}
    {draw next : Int} {body : List Char}
    (drawn : { f with requiredCharacters := [] }.enrich s draw =
      .ok ({ f with
        requiredCharacters := []
        sample := some (.text (f.start ++ String.ofList body ++ f.stop)) }, next))
    (enough : f.requiredCharacters.length ≤ body.length) :
    ∃ after : List Char,
      f.enrich s draw =
          .ok ({ f with sample := some (.text (f.start ++ String.ofList after ++ f.stop)) }, next) ∧
        after.length = body.length ∧
        ((∀ c ∈ f.requiredCharacters,
            Text.occurs c.toList (f.start ++ String.ofList after ++ f.stop).toList = true) ↔
          ∀ c ∈ f.requiredCharacters,
            Text.occurs c.toList (body.take (missing f.requiredCharacters body).length) = true →
              Text.occurs c.toList (f.start.toList ++
                body.drop (missing f.requiredCharacters body).length ++ f.stop.toList) = true) := by
  rw [enrich_text (f := { f with requiredCharacters := [] }) typed free bare] at drawn
  obtain ⟨length, made, same⟩ := Outcome.ok_of_map drawn
  have made : bodyLength f = .ok length := made
  have turn : (if length = 0 then draw else draw + 1) = next := congrArg Prod.snd same
  have texts : f.start ++ String.ofList (Field.body s f.validCharacters length draw) ++ f.stop =
      f.start ++ String.ofList body ++ f.stop :=
    Value.text.inj (Option.some.inj (congrArg (fun made => made.1.sample) same))
  have generated : Field.body s f.validCharacters length draw = body := by
    simpa using congrArg String.toList texts
  refine ⟨insertRequired f.requiredCharacters body, ?_, length_insertRequired singles enough,
    forall₂_congr fun c member => ?_⟩
  · rw [enrich_text typed free bare, made, ← generated, ← turn]
    rfl
  · obtain ⟨d, rfl⟩ := Text.exists_singleton (singles c member)
    have parted : d ∈ body ↔ d ∈ body.take (missing f.requiredCharacters body).length ∨
        d ∈ body.drop (missing f.requiredCharacters body).length := by
      rw [← List.mem_append, List.take_append_drop]
    simp only [String.toList_singleton, Text.occurs_singleton, String.toList_append,
      String.toList_ofList, List.mem_append, mem_insertRequired singles member, parted]
    tauto

def password : Field where
  name := "password"
  type := some .string
  requiredCharacters := ["7", "!", "e"]

theorem password_shows_required :
    { password with requiredCharacters := [] }.enrich (.counting "en_US") 0 =
        .ok ({ password with
          requiredCharacters := []
          sample := some (.text "abcdefgh") }, 1) ∧
      ∃ after : List Char,
        password.enrich (.counting "en_US") 0 =
            .ok ({ password with sample := some (.text ("" ++ String.ofList after ++ "")) }, 1) ∧
          after.length = 8 ∧
          ∀ c ∈ password.requiredCharacters,
            Text.occurs c.toList ("" ++ String.ofList after ++ "").toList = true := by
  have drawn : { password with requiredCharacters := [] }.enrich (.counting "en_US") 0 =
      .ok ({ password with
        requiredCharacters := []
        sample := some (.text (password.start ++ String.ofList "abcdefgh".toList ++
          password.stop)) }, 1) := rfl
  obtain ⟨after, made, length, shown⟩ :=
    required_shown_iff rfl rfl rfl (by decide) drawn (by decide)
  exact ⟨rfl, after, made, length, shown.mpr (by decide +kernel)⟩

def code : Field where
  name := "code"
  type := some .string
  requiredCharacters := ["a", "z"]

/-- The letter that is missing is written over the one that is there. -/
theorem code_loses_required :
    { code with requiredCharacters := [] }.enrich (.counting "en_US") 0 =
        .ok ({ code with requiredCharacters := [], sample := some (.text "abcdefgh") }, 1) ∧
      code.enrich (.counting "en_US") 0 =
        .ok ({ code with sample := some (.text "zbcdefgh") }, 1) ∧
      "a" ∈ code.requiredCharacters ∧ Text.occurs "a".toList "zbcdefgh".toList = false :=
  ⟨rfl, rfl, by decide, by decide +kernel⟩

end Field
end RouteDocs
