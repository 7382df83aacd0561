import Mathlib.Data.List.Infix
import RouteDocs.Proofs.Keyed
import RouteDocs.Proofs.Text.Replace
import RouteDocs.Rule.Catalogue

/-!
The sentences of the catalogue. Their placeholders are filled in one after the other. This comes to
the same as filling in all of them at once, as long as no text that is filled in has the name of a
placeholder: in the templates, no placeholder runs into the text behind it.
-/

namespace RouteDocs.Rule

/-! Templates in pieces. -/

inductive Piece where
  | char (c : Char)
  | place (p : Placeholder)
  deriving DecidableEq

namespace Placeholder

/-- A colon and letters. -/
theorem text_shape (p : Placeholder) :
    ∃ c name, p.text.toList = ':' :: c :: name ∧ (c :: name).all Char.isAlpha = true := by
  cases p <;> exact ⟨_, _, rfl, rfl⟩

theorem mem_all (p : Placeholder) : p ∈ all := by
  cases p <;> decide

/-- The placeholder that the text begins with. -/
def at? : List Char → Option Placeholder
  | ':' :: name => all.find? fun p => Text.startsWith (':' :: name) p.text.toList
  | _ => none

theorem at?_eq_find? (s : List Char) :
    at? s = all.find? fun p => Text.startsWith s p.text.toList := by
  unfold at?
  split
  · rfl
  · rename_i other
    refine (List.find?_eq_none.mpr fun p _ begins => ?_).symm
    obtain ⟨c, name, text, _⟩ := p.text_shape
    obtain ⟨rest, same⟩ := Text.startsWith_iff.mp begins
    rw [text] at same
    exact other _ same.symm

theorem at?_eq_none_iff {s : List Char} :
    at? s = none ↔ ∀ p : Placeholder, ¬p.text.toList <+: s := by
  rw [at?_eq_find?, List.find?_eq_none]
  constructor
  · intro absent p begins
    exact absent p p.mem_all (Text.startsWith_iff.mpr begins)
  · intro absent p _ begins
    exact absent p (Text.startsWith_iff.mp begins)

/-- Where a text begins with several placeholders, the longest one counts. -/
theorem longest_of_at? {s : List Char} {p : Placeholder} (found : at? s = some p) :
    p.text.toList <+: s ∧
      ∀ q : Placeholder, q.text.toList <+: s → q.text.length ≤ p.text.length := by
  have sorted : all.Pairwise fun p q => q.text.length ≤ p.text.length := by decide
  rw [at?_eq_find?, List.find?_eq_some_iff_append] at found
  obtain ⟨begins, longer, shorter, split, others⟩ := found
  rw [split] at sorted
  refine ⟨Text.startsWith_iff.mp begins, fun q also => ?_⟩
  have member : q ∈ longer ++ p :: shorter := split ▸ q.mem_all
  rcases List.mem_append.mp member with before | here | ⟨_, behind⟩
  · have not := others q before
    rw [Text.startsWith_iff.mpr also] at not
    cases not
  · exact Nat.le_refl _
  · exact (List.pairwise_cons.mp (List.pairwise_append.mp sorted).2.1).1 q behind

end Placeholder

/-- The pieces of a text from the left. The number `skip` counts characters of a placeholder still
to pass. -/
def piecesFrom : (skip : Nat) → List Char → List Piece
  | _, [] => []
  | skip + 1, _ :: rest => piecesFrom skip rest
  | 0, c :: rest => match Placeholder.at? (c :: rest) with
      | some p => .place p :: piecesFrom (p.text.length - 1) rest
      | none => .char c :: piecesFrom 0 rest

def pieces (template : String) : List Piece :=
  piecesFrom 0 template.toList

section

variable (value : Placeholder → String)

def Piece.written : Piece → List Char
  | .char c => [c]
  | .place p => (value p).toList

/-- Every placeholder replaced by its value at once. -/
def substitute (parts : List Piece) : List Char :=
  parts.flatMap (Piece.written value)

variable {value}

@[simp]
theorem substitute_nil : substitute value [] = [] := rfl

theorem substitute_cons (piece : Piece) (rest : List Piece) :
    substitute value (piece :: rest) = piece.written value ++ substitute value rest := rfl

@[simp]
theorem substitute_char (c : Char) (rest : List Piece) :
    substitute value (.char c :: rest) = c :: substitute value rest := rfl

@[simp]
theorem substitute_place (p : Placeholder) (rest : List Piece) :
    substitute value (.place p :: rest) = (value p).toList ++ substitute value rest := rfl

end

theorem substitute_congr {value other : Placeholder → String} {parts : List Piece}
    (same : ∀ p, .place p ∈ parts → value p = other p) :
    substitute value parts = substitute other parts := by
  refine List.flatMap_congr fun piece member => ?_
  cases piece with
  | char c => rfl
  | place p => simp only [Piece.written, same p member]

theorem substitute_piecesFrom (skip : Nat) (s : List Char) :
    substitute Placeholder.text (piecesFrom skip s) = s.drop skip := by
  fun_induction piecesFrom skip s with
  | case1 skip => simp
  | case2 skip c rest induction => simpa using induction
  | case3 c rest p found induction =>
      obtain ⟨after, same⟩ := (Placeholder.longest_of_at? found).1
      obtain ⟨d, name, text, _⟩ := p.text_shape
      have length : p.text.length = name.length + 2 := by
        rw [← String.length_toList, text]
        rfl
      rw [text] at same
      cases same
      simpa [text, length] using induction
  | case4 c rest absent induction => simpa using induction

theorem substitute_pieces (template : String) :
    substitute Placeholder.text (pieces template) = template.toList :=
  substitute_piecesFrom 0 template.toList

/-! Templates in which no placeholder runs into the text behind it. -/

/-- No letter comes first, whatever is filled in. -/
def Stops : List Piece → Bool
  | [] => true
  | .char c :: _ => !c.isAlpha
  | .place _ :: _ => false

/-- Behind every placeholder and behind every colon, no letter comes. -/
def Spaced : List Piece → Bool
  | [] => true
  | .char c :: rest => (c != ':' || Stops rest) && Spaced rest
  | .place _ :: rest => Stops rest && Spaced rest

section

variable {value : Placeholder → String} {rest : List Piece}

theorem no_letter_of_stops (stops : Stops rest = true) :
    ∀ c ∈ (substitute value rest).head?, c.isAlpha = false := by
  intro c first
  match rest, stops with
  | .char d :: rest, stops =>
      cases first
      simpa [Stops] using stops

theorem spares_piece {piece : Piece} {q : Placeholder} (spaced : Spaced (piece :: rest) = true)
    (free : ∀ p, piece = .place p → ¬q.text.toList <:+: (value p).toList) :
    Text.Spares q.text.toList (piece.written value) (substitute value rest) := by
  obtain ⟨d, name, text, letters⟩ := q.text_shape
  cases piece with
  | char c =>
      refine ⟨fun begins => ?_, trivial⟩
      rw [text] at begins
      obtain ⟨rfl, behind, same⟩ := List.cons_prefix_cons.mp begins
      have stops : Stops rest = true := by simpa using (Bool.and_eq_true_iff.mp spaced).1
      have first : (substitute value rest).head? = some d := by
        simpa using congrArg List.head? same.symm
      have noLetter := no_letter_of_stops stops d first
      rw [List.all_eq_true.mp letters d List.mem_cons_self] at noLetter
      cases noLetter
  | place p =>
      have stops : Stops rest = true := (Bool.and_eq_true_iff.mp spaced).1
      refine Text.spares_of_not_infix (free p rfl) fun c first letter => ?_
      rw [text] at letter
      have noLetter := no_letter_of_stops stops c first
      rw [List.all_eq_true.mp letters c letter] at noLetter
      cases noLetter

theorem spaced_tail {piece : Piece} (spaced : Spaced (piece :: rest) = true) :
    Spaced rest = true := by
  cases piece <;> exact (Bool.and_eq_true_iff.mp spaced).2

/-- One placeholder is filled in, and the others stay as they are. -/
theorem replace_substitute {parts : List Piece} {q : Placeholder} (spaced : Spaced parts = true)
    (own : value q = q.text)
    (free : ∀ p ≠ q, .place p ∈ parts → ¬q.text.toList <:+: (value p).toList) (new : String) :
    Text.replace q.text.toList new.toList (substitute value parts) =
      substitute (Function.update value q new) parts := by
  induction parts with
  | nil => rfl
  | cons piece rest induction =>
      have later := induction (spaced_tail spaced) fun p other member =>
        free p other (List.mem_cons_of_mem piece member)
      by_cases here : piece = .place q
      · obtain ⟨d, name, text, _⟩ := q.text_shape
        have nonempty : q.text.toList ≠ [] := by simp [text]
        subst here
        rw [substitute_place, own, Text.replace_append_self nonempty, later]
        simp
      · have spares : Text.Spares q.text.toList (piece.written value) (substitute value rest) := by
          refine spares_piece spaced fun p same => free p ?_ (by simp [same])
          rintro rfl
          exact here same
        have kept : piece.written (Function.update value q new) = piece.written value := by
          cases piece with
          | char c => rfl
          | place p =>
              have other : p ≠ q := fun same => here (congrArg Piece.place same)
              simp [Piece.written, other]
        rw [substitute_cons, Text.replace_append_of_spares spares, later, substitute_cons, kept]

theorem not_infix_substitute {parts : List Piece} {q : Placeholder}
    (spaced : Spaced parts = true)
    (free : ∀ p, .place p ∈ parts → ¬q.text.toList <:+: (value p).toList) :
    ¬q.text.toList <:+: substitute value parts := by
  obtain ⟨d, name, text, _⟩ := q.text_shape
  refine Text.not_infix_of_spares (by simp [text]) ?_
  induction parts with
  | nil => trivial
  | cons piece rest induction =>
      have here : Text.Spares q.text.toList (piece.written value) (substitute value rest) :=
        spares_piece spaced fun p same => free p (by simp [same])
      have later := induction (spaced_tail spaced) fun p member =>
        free p (List.mem_cons_of_mem piece member)
      rw [substitute_cons, Text.spares_append]
      exact ⟨by simpa using here, later⟩

end

/-! Filling in one placeholder after the other. -/

namespace Wording

variable (wording : Wording) (field : String) (parameters : List String)

/-- What stands for a placeholder in the sentence. -/
def shown (p : Placeholder) : String :=
  (wording.filling? field parameters p).getD p.text

/-- What stands for a placeholder while some are still to be filled in. -/
def stage (left : List Placeholder) (p : Placeholder) : String :=
  if p ∈ left then p.text else wording.shown field parameters p

/-- The placeholders of the pieces are all filled in, by texts without names of placeholders that
are filled in. -/
structure Fills (parts : List Piece) : Prop where
  spaced : Spaced parts = true
  filled : ∀ p, .place p ∈ parts → (wording.filling? field parameters p).isSome = true
  free : ∀ p, .place p ∈ parts → ∀ q, (wording.filling? field parameters q).isSome = true →
    ¬q.text.toList <:+: (wording.shown field parameters p).toList

variable {wording field parameters} {parts : List Piece}

theorem fillPlace_stage (fills : wording.Fills field parameters parts) {q : Placeholder}
    {left : List Placeholder} (own : ∀ p ∈ left, ¬q.text.toList <:+: p.text.toList) :
    wording.fillPlace field parameters
        (substitute (wording.stage field parameters (q :: left)) parts) q =
      substitute (wording.stage field parameters left) parts := by
  have later : q ∉ left := fun member => own q member (List.infix_refl _)
  have others : ∀ p ≠ q, wording.stage field parameters (q :: left) p =
      wording.stage field parameters left p := fun p other => by simp [stage, other]
  unfold fillPlace
  cases filling : wording.filling? field parameters q with
  | none =>
      refine substitute_congr fun p member => others p ?_
      rintro rfl
      simpa [filling] using fills.filled p member
  | some text =>
      dsimp only
      rw [replace_substitute fills.spaced (by simp [stage]) ?_ text]
      · refine substitute_congr fun p member => ?_
        by_cases same : p = q
        · subst same
          simp [stage, later, shown, filling]
        · rw [Function.update_of_ne same, others p same]
      · intro p other member
        rw [others p other, stage]
        split
        · exact own p ‹_›
        · exact fills.free p member q (by simp [filling])

theorem foldl_fillPlace (fills : wording.Fills field parameters parts) {left : List Placeholder}
    (ordered : left.Pairwise fun p q => ¬p.text.toList <:+: q.text.toList) :
    left.foldl (wording.fillPlace field parameters)
        (substitute (wording.stage field parameters left) parts) =
      substitute (wording.shown field parameters) parts := by
  induction left with
  | nil => exact substitute_congr fun p _ => if_neg List.not_mem_nil
  | cons q left induction =>
      obtain ⟨own, ordered⟩ := List.pairwise_cons.mp ordered
      rw [List.foldl_cons, fillPlace_stage fills own, induction ordered]

theorem fill_eq_substitute {template : String}
    (fills : wording.Fills field parameters (pieces template)) :
    wording.fill field parameters template =
      String.ofList (substitute (wording.shown field parameters) (pieces template)) := by
  have all : ∀ p, wording.stage field parameters Placeholder.all p = p.text := fun p =>
    if_pos p.mem_all
  have start : substitute (wording.stage field parameters Placeholder.all) (pieces template) =
      template.toList :=
    (substitute_congr fun p _ => all p).trans (substitute_pieces template)
  rw [fill, ← start, foldl_fillPlace fills (by decide)]

theorem isSome_filling?_iff {p : Placeholder} :
    (wording.filling? field parameters p).isSome = true ↔
      p ∈ (wording.fillings field parameters).map Prod.fst ∨ p = .subject ∨ p = .values := by
  rw [← Keyed.lookup_isSome_iff]
  unfold filling?
  cases (wording.fillings field parameters).lookup p with
  | none => cases p <;> simp
  | some text => simp

/-- Which placeholders a wording has texts for does not depend on the field and the parameters. -/
theorem isSome_filling? (p : Placeholder) :
    (wording.filling? field parameters p).isSome = (wording.filling? "" [] p).isSome := by
  have places : (wording.fillings field parameters).map Prod.fst =
      (wording.fillings "" []).map Prod.fst := by
    cases wording <;> simp [fillings]
  rw [Bool.eq_iff_iff, isSome_filling?_iff, isSome_filling?_iff, places]

end Wording

/-! The catalogue. -/

def Piece.isFilledBy (wording : Wording) : Piece → Bool
  | .char _ => true
  | .place p => (wording.filling? "" [] p).isSome

/-- May the wording fill in the template at once? -/
def Wording.suits (wording : Wording) (template : List Char) : Bool :=
  Spaced (piecesFrom 0 template) && (piecesFrom 0 template).all (Piece.isFilledBy wording)

section

variable {wording : Wording} {template : String} {s : List Char}
  (same : template = String.ofList s)

include same

theorem Wording.suits_of_eq (suits : wording.suits s = true) :
    wording.suits template.toList = true := by
  rwa [same, String.toList_ofList]

theorem Wording.suits_and {later : Bool} {others : Prop} (rest : later = true → others)
    (suits : (wording.suits s && later) = true) :
    wording.suits template.toList = true ∧ others :=
  ⟨suits_of_eq same (Bool.and_eq_true_iff.mp suits).1, rest (Bool.and_eq_true_iff.mp suits).2⟩

end

def Template.texts : Template → List String
  | none => []
  | text sentence => [sentence]
  | sized numeric file string array => [numeric, file, string, array]

theorem Template.mem_texts {template : Template} {type : Option FieldType} {text : String}
    (selected : template.select? type = some text) : text ∈ template.texts := by
  cases template with
  | none => cases selected
  | text text =>
      cases selected
      exact List.mem_singleton_self text
  | sized numeric file string array =>
      cases selected
      cases Measure.ofType type <;> simp [texts]

theorem suits_of_mem_catalogue :
    ∀ rule ∈ catalogue, ∀ text ∈ rule.template.texts,
      rule.wording.suits text.toList = true := by
  simp only [catalogue, Template.texts, List.forall_mem_cons, List.not_mem_nil, false_implies,
    implies_true, and_true, true_and, and_assoc]
  -- The characters of all templates are read off first, then all templates are looked at in one go.
  refine (?_ : (_ : Bool) = true → _) ?_
  · repeat apply Wording.suits_and rfl
    exact Wording.suits_of_eq rfl
  · decide +kernel

/-- What a rule of two bounds says of a field, by its type. -/
def pageSentences : List (Option FieldType × String) :=
  [(some .integer, "The page size must be between 1 and 5."),
   (some .number, "The page size must be between 1 and 5."),
   (some .file, "The page size must be between 1 and 5 kilobytes."),
   (some .string, "The page size must be between 1 and 5 characters."),
   (some .boolean, "The page size must be between 1 and 5 characters."),
   (none, "The page size must be between 1 and 5 characters."),
   (some .array, "The page size must have between 1 and 5 items.")]

end RouteDocs.Rule
