import RouteDocs.Proofs.Text.Case
import RouteDocs.Proofs.Text.Pieces
import RouteDocs.Rule.Token

/-!
Names of rules. The words of a name can be joined by underscores or by hyphens, or told apart by
their capitals: the name is the same, and its normal form stays as it is.
-/

namespace RouteDocs.Rule

/-! Where words are separated. -/

def isSmall (c : Char) : Bool :=
  c.isLower || c.isDigit

theorem ascii_of_isSmall {c : Char} (small : isSmall c = true) : c.toNat < 128 := by
  apply Text.toNat_lt_of_isAlphanum
  rcases Bool.or_eq_true_iff.mp small with lower | digit
  · have letter : c.isAlpha = true := Bool.or_eq_true_iff.mpr (.inr lower)
    exact Bool.or_eq_true_iff.mpr (.inl letter)
  · exact Text.isAlphanum_of_isDigit digit

theorem not_isUpper_of_isSmall {c : Char} (small : isSmall c = true) : c.isUpper = false := by
  have ascii := ascii_of_isSmall small
  revert small
  exact Text.forall_ascii ascii (by decide)

theorem ne_hyphen_of_isSmall {c : Char} (small : isSmall c = true) : c ≠ '-' := by
  rintro rfl
  cases small

theorem not_isBlank_of_isSmall {c : Char} (small : isSmall c = true) : Text.isBlank c = false := by
  have ascii := ascii_of_isSmall small
  revert small
  exact Text.forall_ascii ascii (by decide)

structure IsCapitalOf (capital c : Char) : Prop where
  ascii : capital.toNat < 128
  isUpper : capital.isUpper = true
  not_small : isSmall capital = false
  ne_hyphen : capital ≠ '-'
  full : Text.isBlank capital = false
  toLower : capital.toLower = c

theorem isCapitalOf_toUpper {c : Char} (lower : c.isLower = true) : IsCapitalOf c.toUpper c := by
  have ascii := ascii_of_isSmall (Bool.or_eq_true_iff.mpr (.inl lower))
  have facts : c.isLower = true → c.toUpper.toNat < 128 ∧ c.toUpper.isUpper = true ∧
      isSmall c.toUpper = false ∧ c.toUpper ≠ '-' ∧ Text.isBlank c.toUpper = false ∧
        c.toUpper.toLower = c :=
    Text.forall_ascii ascii (by decide)
  obtain ⟨small, isUpper, not_small, ne_hyphen, full, toLower⟩ := facts lower
  exact { ascii := small, isUpper, not_small, ne_hyphen, full, toLower }

theorem separateWords_cons {c : Char} (other : isSmall c = false) (s : List Char) :
    separateWords (c :: s) = c :: separateWords s := by
  cases s with
  | nil => rfl
  | cons d rest =>
      rw [isSmall] at other
      simp [separateWords, other]

theorem separateWords_of_no_capital {s : List Char} (plain : ∀ c ∈ s, c.isUpper = false) :
    separateWords s = s := by
  fun_induction separateWords s with
  | case1 c d rest bound induction =>
      rw [plain d (by simp), Bool.and_false] at bound
      cases bound
  | case2 c d rest bound induction =>
      rw [induction fun other member => plain other (List.mem_cons_of_mem c member)]
  | case3 s short => rfl

theorem separateWords_append {word : List Char} (some_ : word ≠ [])
    (small : ∀ c ∈ word, isSmall c = true) {d : Char} (capital : d.isUpper = true)
    (rest : List Char) :
    separateWords (word ++ d :: rest) = word ++ '_' :: separateWords (d :: rest) := by
  induction word with
  | nil => exact absurd rfl some_
  | cons c word induction =>
      obtain ⟨here, later⟩ := List.forall_mem_cons.mp small
      cases word with
      | nil =>
          rw [isSmall] at here
          simp [separateWords, here, capital]
      | cons e word =>
          have plain := not_isUpper_of_isSmall (later e List.mem_cons_self)
          have step := induction (List.cons_ne_nil e word) later
          rw [List.cons_append] at step
          simp [separateWords, plain, step]

theorem mem_separateWords {s : List Char} {c : Char} (member : c ∈ separateWords s) :
    c ∈ s ∨ c = '_' := by
  fun_induction separateWords s with
  | case1 d e rest bound induction =>
      simp only [List.mem_cons] at member induction ⊢
      tauto
  | case2 d e rest bound induction =>
      simp only [List.mem_cons] at member induction ⊢
      tauto
  | case3 s short => exact .inl member

theorem head?_separateWords (s : List Char) : (separateWords s).head? = s.head? := by
  fun_cases separateWords s <;> rfl

theorem getLast?_separateWords (s : List Char) : (separateWords s).getLast? = s.getLast? := by
  fun_induction separateWords s with
  | case1 c d rest bound induction => simp [List.getLast?_cons, induction]
  | case2 c d rest bound induction => simp [List.getLast?_cons, induction]
  | case3 s short => rfl

/-! Normal names. -/

structure IsNormal (name : List Char) : Prop where
  ascii : Text.IsAscii name
  trimmed : Text.trimChars name = name
  no_hyphen : '-' ∉ name
  no_capital : ∀ c ∈ name, c.isUpper = false

def underscored (s : List Char) : List Char :=
  s.map fun c => if c = '-' then '_' else c

theorem underscored_of_no_hyphen {s : List Char} (plain : '-' ∉ s) : underscored s = s := by
  refine (List.map_congr_left fun c member => if_neg ?_).trans (List.map_id s)
  rintro rfl
  exact plain member

section

variable {name : List Char} (ascii : Text.IsAscii name)
include ascii

theorem mem_separated {c : Char}
    (member : c ∈ separateWords (underscored (Text.trimChars name))) :
    c.toNat < 128 ∧ c ≠ '-' := by
  rcases mem_separateWords member with written | rfl
  · obtain ⟨d, among, rfl⟩ := List.mem_map.mp written
    have here := ascii d ((Text.sublist_trimChars name).subset among)
    split
    · decide
    · rename_i other
      exact ⟨here, other⟩
  · decide

theorem normalizeChars_eq :
    normalizeChars name =
      (separateWords (underscored (Text.trimChars name))).map Char.toLower :=
  Text.lowerChars_ascii fun _ member => (mem_separated ascii member).1

/-- The ends of a name are those of the trimmed one, in their small form. -/
theorem trimChars_normalizeChars :
    Text.trimChars (normalizeChars name) = normalizeChars name := by
  have ends := Text.trimChars_eq_self_iff.mp (Text.trimChars_trimChars name)
  have blank : ∀ c ∈ Text.trimChars name, Text.isBlank c = false →
      Text.isBlank (if c = '-' then '_' else c).toLower = false := by
    intro c member full
    have here := ascii c ((Text.sublist_trimChars name).subset member)
    split
    · decide
    · rw [(Text.toLower_of_ascii here).2.2.2, full]
  rw [normalizeChars_eq ascii, Text.trimChars_eq_self_iff, List.head?_map, List.getLast?_map,
    head?_separateWords, getLast?_separateWords, underscored, List.head?_map, List.getLast?_map,
    Option.map_map, Option.map_map]
  constructor
  · intro _ first
    obtain ⟨c, start, rfl⟩ := Option.map_eq_some_iff.mp first
    exact blank c (List.mem_of_mem_head? start) (ends.1 c start)
  · intro _ last
    obtain ⟨c, stop, rfl⟩ := Option.map_eq_some_iff.mp last
    exact blank c (List.mem_of_mem_getLast? stop) (ends.2 c stop)

theorem isNormal_normalizeChars : IsNormal (normalizeChars name) := by
  have small : ∀ c ∈ normalizeChars name, c.toNat < 128 ∧ c.isUpper = false ∧ c ≠ '-' := by
    rw [normalizeChars_eq ascii]
    intro _ member
    obtain ⟨c, among, rfl⟩ := List.mem_map.mp member
    obtain ⟨here, other⟩ := mem_separated ascii among
    obtain ⟨below, plain, hyphen, _⟩ := Text.toLower_of_ascii here
    exact ⟨below, plain, mt hyphen.mp other⟩
  exact
    { ascii := fun c member => (small c member).1
      trimmed := trimChars_normalizeChars ascii
      no_hyphen := fun member => (small '-' member).2.2 rfl
      no_capital := fun c member => (small c member).2.1 }

end

theorem IsNormal.normalizeChars_eq_self {name : List Char} (normal : IsNormal name) :
    normalizeChars name = name := by
  rw [normalizeChars_eq normal.ascii, normal.trimmed, underscored_of_no_hyphen normal.no_hyphen,
    separateWords_of_no_capital normal.no_capital,
    Text.map_toLower_of_no_capital normal.ascii normal.no_capital]

/-! Spellings. -/

/-- A small letter, and small letters and digits behind it. -/
def IsWord : List Char → Prop
  | [] => False
  | c :: rest => c.isLower = true ∧ ∀ d ∈ rest, isSmall d = true

instance : DecidablePred IsWord := fun word =>
  match word with
  | [] => inferInstanceAs (Decidable False)
  | c :: rest => decidable_of_iff (c.isLower = true ∧ rest.all isSmall = true) (by simp [IsWord])

def capitalized : List Char → List Char
  | [] => []
  | c :: rest => c.toUpper :: rest

def snakeCase (words : List (List Char)) : List Char :=
  Text.joinWith ['_'] words

def kebabCase (words : List (List Char)) : List Char :=
  Text.joinWith ['-'] words

def studlyCase (words : List (List Char)) : List Char :=
  words.flatMap capitalized

def spellings (words : List (List Char)) : List (List Char) :=
  [snakeCase words, kebabCase words, studlyCase words]

theorem IsWord.exists_cons {word : List Char} (isWord : IsWord word) :
    ∃ c rest, word = c :: rest ∧ c.isLower = true ∧ ∀ d ∈ rest, isSmall d = true := by
  cases word with
  | nil => exact isWord.elim
  | cons c rest => exact ⟨c, rest, rfl, isWord⟩

theorem IsWord.small {word : List Char} (isWord : IsWord word) : ∀ c ∈ word, isSmall c = true := by
  obtain ⟨c, rest, rfl, lower, small⟩ := isWord.exists_cons
  exact List.forall_mem_cons.mpr ⟨Bool.or_eq_true_iff.mpr (.inl lower), small⟩

theorem IsWord.toLower_capitalized {word : List Char} (isWord : IsWord word) :
    (capitalized word).map Char.toLower = word := by
  obtain ⟨c, rest, rfl, lower, small⟩ := isWord.exists_cons
  have kept : rest.map Char.toLower = rest :=
    Text.map_toLower_of_no_capital (fun d member => ascii_of_isSmall (small d member))
      fun d member => not_isUpper_of_isSmall (small d member)
  rw [capitalized, List.map_cons, kept, (isCapitalOf_toUpper lower).toLower]

section

variable {words : List (List Char)} (each : ∀ word ∈ words, IsWord word)
include each

theorem isSmall_of_mem_joinWith {mark c : Char} (member : c ∈ Text.joinWith [mark] words) :
    c = mark ∨ isSmall c = true := by
  by_cases same : c = mark
  · exact .inl same
  · obtain ⟨word, among, within⟩ := Text.exists_of_mem_joinWith (by simpa using same) member
    exact .inr ((each word among).small c within)

theorem trimChars_joinWith {mark : Char} (full : Text.isBlank mark = false) :
    Text.trimChars (Text.joinWith [mark] words) = Text.joinWith [mark] words := by
  apply Text.trimChars_of_full
  intro c member
  rcases isSmall_of_mem_joinWith each member with rfl | small
  · exact full
  · exact not_isBlank_of_isSmall small

theorem isNormal_snakeCase : IsNormal (snakeCase words) where
  ascii c member := by
    rcases isSmall_of_mem_joinWith each member with rfl | small
    · decide
    · exact ascii_of_isSmall small
  trimmed := trimChars_joinWith each (by decide)
  no_hyphen member := by
    rcases isSmall_of_mem_joinWith each member with same | small
    · cases same
    · exact ne_hyphen_of_isSmall small rfl
  no_capital c member := by
    rcases isSmall_of_mem_joinWith each member with rfl | small
    · decide
    · exact not_isUpper_of_isSmall small

theorem underscored_kebabCase : underscored (kebabCase words) = snakeCase words := by
  have kept : words.map underscored = words :=
    (List.map_congr_left fun word member => underscored_of_no_hyphen fun hyphen =>
      ne_hyphen_of_isSmall ((each word member).small '-' hyphen) rfl).trans (List.map_id words)
  show List.map _ (Text.joinWith ['-'] words) = _
  rw [Text.map_joinWith]
  exact congrArg (Text.joinWith ['_']) kept

/-- A boundary is found where the last character of a word is small. A word of one letter has none
that is. -/
theorem separateWords_studlyCase (long : ∀ word ∈ words.dropLast, 2 ≤ word.length) :
    separateWords (studlyCase words) = Text.joinWith ['_'] (words.map capitalized) := by
  induction words using Text.joinWith.induct with
  | case1 => rfl
  | case2 word =>
      obtain ⟨c, rest, rfl, lower, small⟩ := (each word List.mem_cons_self).exists_cons
      rw [studlyCase, List.flatMap_singleton, capitalized,
        separateWords_cons (isCapitalOf_toUpper lower).not_small,
        separateWords_of_no_capital fun d member => not_isUpper_of_isSmall (small d member)]
      rfl
  | case3 word next rest induction =>
      obtain ⟨here, later⟩ := List.forall_mem_cons.mp each
      obtain ⟨c, tail, rfl, lower, small⟩ := here.exists_cons
      obtain ⟨d, ending, rfl, nextLower, _⟩ := (later next List.mem_cons_self).exists_cons
      rw [List.dropLast_cons_cons] at long
      obtain ⟨two, long⟩ := List.forall_mem_cons.mp long
      have some_ : tail ≠ [] := by
        rintro rfl
        simp at two
      have split_ := induction later long
      calc
        separateWords (studlyCase ((c :: tail) :: (d :: ending) :: rest))
            = c.toUpper :: separateWords (tail ++ d.toUpper :: (ending ++ studlyCase rest)) :=
          separateWords_cons (isCapitalOf_toUpper lower).not_small _
        _ = c.toUpper :: (tail ++ '_' :: separateWords (studlyCase ((d :: ending) :: rest))) := by
          rw [separateWords_append some_ small (isCapitalOf_toUpper nextLower).isUpper]
          rfl
        _ = Text.joinWith ['_'] (((c :: tail) :: (d :: ending) :: rest).map capitalized) := by
          rw [split_]
          simp [Text.joinWith, capitalized]

example : separateWords (studlyCase ["a".toList, "bc".toList]) = "ABc".toList := by decide

theorem plain_of_mem_studlyCase {c : Char} (member : c ∈ studlyCase words) :
    c.toNat < 128 ∧ c ≠ '-' ∧ Text.isBlank c = false := by
  obtain ⟨word, among, within⟩ := List.mem_flatMap.mp member
  obtain ⟨d, rest, rfl, lower, small⟩ := (each word among).exists_cons
  rcases List.mem_cons.mp within with rfl | within
  · have capital := isCapitalOf_toUpper lower
    exact ⟨capital.ascii, capital.ne_hyphen, capital.full⟩
  · have small := small c within
    exact ⟨ascii_of_isSmall small, ne_hyphen_of_isSmall small, not_isBlank_of_isSmall small⟩

theorem normalizeChars_kebabCase : normalizeChars (kebabCase words) = snakeCase words := by
  have normal := isNormal_snakeCase each
  have trimmed : Text.trimChars (kebabCase words) = kebabCase words :=
    trimChars_joinWith each (by decide)
  have same : underscored (Text.trimChars (kebabCase words)) =
      underscored (Text.trimChars (snakeCase words)) := by
    rw [trimmed, underscored_kebabCase each, normal.trimmed,
      underscored_of_no_hyphen normal.no_hyphen]
  calc
    normalizeChars (kebabCase words) = normalizeChars (snakeCase words) :=
      congrArg (fun s => Text.lowerChars (separateWords s)) same
    _ = snakeCase words := normal.normalizeChars_eq_self

theorem normalizeChars_studlyCase (long : ∀ word ∈ words.dropLast, 2 ≤ word.length) :
    normalizeChars (studlyCase words) = snakeCase words := by
  have plain {c : Char} := @plain_of_mem_studlyCase words each c
  have trimmed : Text.trimChars (studlyCase words) = studlyCase words :=
    Text.trimChars_of_full fun c member => (plain member).2.2
  have lower : (words.map capitalized).map (List.map Char.toLower) = words := by
    rw [List.map_map]
    exact (List.map_congr_left fun word member => (each word member).toLower_capitalized).trans
      (List.map_id words)
  rw [normalizeChars_eq fun c member => (plain member).1, trimmed,
    underscored_of_no_hyphen fun member => (plain member).2.1 rfl,
    separateWords_studlyCase each long, Text.map_joinWith, lower]
  rfl

theorem normalizeChars_spelling (long : ∀ word ∈ words.dropLast, 2 ≤ word.length)
    {spelling : List Char} (member : spelling ∈ spellings words) :
    normalizeChars spelling = snakeCase words := by
  simp only [spellings, List.mem_cons, List.not_mem_nil, or_false] at member
  rcases member with rfl | rfl | rfl
  · exact (isNormal_snakeCase each).normalizeChars_eq_self
  · exact normalizeChars_kebabCase each
  · exact normalizeChars_studlyCase each long

end

theorem normalizeChars_between {front back : List Char} (blankFront : Text.isBlankText front = true)
    (blankBack : Text.isBlankText back = true) (name : List Char) :
    normalizeChars (front ++ name ++ back) = normalizeChars name := by
  rw [normalizeChars, Text.trimChars_between blankFront blankBack, normalizeChars]

/-- Every spelling of a name is read as the one with underscores, whatever blanks stand around it.
Only the last word may be a single letter. What an ASCII name is read as is read as itself. -/
theorem normalizeName_canonical :
    (∀ words : List (List Char), (∀ word ∈ words, IsWord word) →
      (∀ word ∈ words.dropLast, 2 ≤ word.length) →
        ∀ spelling ∈ spellings words, ∀ front back : List Char,
          Text.isBlankText front = true → Text.isBlankText back = true →
            normalizeName (String.ofList (front ++ spelling ++ back)) =
              String.ofList (snakeCase words)) ∧
      ∀ name : String, Text.IsAscii name.toList →
        normalizeName (normalizeName name) = normalizeName name := by
  constructor
  · intro words each long spelling member front back blankFront blankBack
    rw [normalizeName, String.toList_ofList, normalizeChars_between blankFront blankBack,
      normalizeChars_spelling each long member]
  · intro name ascii
    rw [normalizeName, normalizeName, String.toList_ofList,
      (isNormal_normalizeChars ascii).normalizeChars_eq_self]

theorem normalizeName_date2IfX :
    (∀ word ∈ ["date2".toList, "if".toList, "x".toList], IsWord word) ∧
      studlyCase ["date2".toList, "if".toList, "x".toList] = "Date2IfX".toList ∧
      normalizeName "\t Date2IfX\u2003\n" = "date2_if_x" ∧
      normalizeName (normalizeName " -Date 2If-X9Y\t") = normalizeName " -Date 2If-X9Y\t" := by
  have each : ∀ word ∈ ["date2".toList, "if".toList, "x".toList], IsWord word := by decide
  obtain ⟨spelled, again⟩ := normalizeName_canonical
  exact ⟨each, by decide, spelled _ each (by decide) "Date2IfX".toList (by decide) "\t ".toList
    "\u2003\n".toList (by decide) (by decide), again _ (by decide)⟩

end RouteDocs.Rule
