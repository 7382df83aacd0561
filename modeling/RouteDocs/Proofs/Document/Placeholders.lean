import Mathlib.Data.List.DropRight
import RouteDocs.Proofs.Document.Assembly
import RouteDocs.Proofs.Text.Pieces

/-!
Placeholders of the paths of a document. A path keeps the placeholders of the route that it comes
from, and none of them is marked as optional any more; written once, it stays as it is.
-/

namespace RouteDocs

namespace PathTemplate

/-- What stands behind the name of a placeholder. -/
def stop (optional : Bool) : List Char := if optional then ['?', '\x7d'] else ['\x7d']

/-- The piece, not marked as optional. -/
def Piece.asked : Piece → Piece
  | char c => char c
  | placeholder name _ => placeholder name false

structure IsName (name : List Char) : Prop where
  full : name ≠ []
  word : ∀ c ∈ name, Text.isWord c = true

variable {c : Char} {rest name s : List Char} {optional : Bool}

theorem IsName.no_brace (isName : IsName name) : '\x7b' ∉ name := fun member =>
  absurd (isName.word _ member) (by decide)

theorem IsName.isEmpty_eq_false (isName : IsName name) : name.isEmpty = false :=
  List.isEmpty_eq_false_iff.mpr isName.full

theorem placeholder?_of_isName (isName : IsName name) (optional : Bool) (rest : List Char) :
    placeholder? (name ++ stop optional ++ rest) = some (name, optional) := by
  have mark : Text.isWord '?' = false := by decide
  have brace : Text.isWord '\x7d' = false := by decide
  have front : (name ++ stop optional ++ rest).takeWhile Text.isWord = name := by
    rw [List.append_assoc, List.takeWhile_append_of_pos isName.word]
    cases optional <;> simp [stop, mark, brace]
  have back : (name ++ stop optional ++ rest).dropWhile Text.isWord = stop optional ++ rest := by
    rw [List.append_assoc, List.dropWhile_append_of_pos isName.word]
    cases optional <;> simp [stop, mark, brace]
  rw [placeholder?, front, back, isName.isEmpty_eq_false]
  cases optional <;> rfl

theorem exists_of_placeholder? (found : placeholder? s = some (name, optional)) :
    IsName name ∧ ∃ rest, s = name ++ stop optional ++ rest := by
  have parts := List.takeWhile_append_dropWhile (p := Text.isWord) (l := s)
  rw [placeholder?] at found
  split at found
  · cases found
  · rename_i full
    have isName : IsName (s.takeWhile Text.isWord) :=
      ⟨fun empty => full (List.isEmpty_iff.mpr empty), fun c member => List.mem_takeWhile_imp member⟩
    split at found
    · rename_i rest back
      cases found
      exact ⟨isName, rest, parts.symm.trans (by rw [back]; simp [stop])⟩
    · rename_i rest back
      cases found
      exact ⟨isName, rest, parts.symm.trans (by rw [back]; simp [stop])⟩
    · cases found

/-! The pieces of a path, one by one. -/

theorem piecesFrom_length (front rest : List Char) :
    piecesFrom front.length (front ++ rest) = pieces rest := by
  induction front with
  | nil => rfl
  | cons c front induction => exact induction

theorem pieces_char (stays : c = '\x7b' → placeholder? rest = none) :
    pieces (c :: rest) = .char c :: pieces rest := by
  rw [pieces, piecesFrom]
  split
  · rename_i brace
    rw [stays brace]
    rfl
  · rfl

theorem pieces_placeholder (isName : IsName name) (optional : Bool) (rest : List Char) :
    pieces ('\x7b' :: (name ++ stop optional ++ rest)) =
      .placeholder name optional :: pieces rest := by
  have passed : name.length + (if optional then 2 else 1) = (name ++ stop optional).length := by
    cases optional <;> simp [stop]
  rw [pieces, piecesFrom, if_pos rfl, placeholder?_of_isName isName]
  dsimp only
  rw [passed, piecesFrom_length]

/-- A path ends, goes on behind a character that stands for itself, or goes on behind a
placeholder. -/
theorem induct {motive : List Char → Prop} (nil : motive [])
    (char : ∀ c rest, (c = '\x7b' → placeholder? rest = none) → motive rest → motive (c :: rest))
    (placeholder : ∀ name optional rest, IsName name → motive rest →
      motive ('\x7b' :: (name ++ stop optional ++ rest))) (s : List Char) : motive s := by
  -- A placeholder is passed as a whole, so the rest is a shorter text but not the next one.
  induction length : s.length using Nat.strong_induction_on generalizing s with
  | _ n induction =>
      cases s with
      | nil => exact nil
      | cons c rest =>
          rw [List.length_cons] at length
          by_cases stays : c = '\x7b' → placeholder? rest = none
          · exact char c rest stays (induction rest.length (by omega) rest rfl)
          · obtain ⟨rfl, some_⟩ := Classical.not_imp.mp stays
            obtain ⟨⟨name, optional⟩, found⟩ := Option.ne_none_iff_exists'.mp some_
            obtain ⟨isName, after, rfl⟩ := exists_of_placeholder? found
            simp only [List.length_append] at length
            exact placeholder name optional after isName
              (induction after.length (by omega) after rfl)

@[simp] theorem normalizeChars_nil : normalizeChars [] = [] := rfl

theorem normalizeChars_char (stays : c = '\x7b' → placeholder? rest = none) :
    normalizeChars (c :: rest) = c :: normalizeChars rest := by
  rw [normalizeChars, pieces_char stays]
  rfl

theorem normalizeChars_placeholder (isName : IsName name) (optional : Bool) (rest : List Char) :
    normalizeChars ('\x7b' :: (name ++ stop optional ++ rest)) =
      '\x7b' :: (name ++ stop false ++ normalizeChars rest) := by
  rw [normalizeChars, pieces_placeholder isName]
  rfl

theorem head?_normalizeChars (s : List Char) : (normalizeChars s).head? = s.head? := by
  induction s using induct with
  | nil => rfl
  | char c rest stays _ => rw [normalizeChars_char stays]; rfl
  | placeholder name optional rest isName _ => rw [normalizeChars_placeholder isName]; rfl

theorem getLast?_normalizeChars (s : List Char) : (normalizeChars s).getLast? = s.getLast? := by
  induction s using induct with
  | nil => rfl
  | char c rest stays induction =>
      rw [normalizeChars_char stays, List.getLast?_cons, List.getLast?_cons, induction]
  | placeholder name optional rest isName induction =>
      rw [normalizeChars_placeholder isName, List.getLast?_cons, List.getLast?_cons,
        List.getLast?_append, List.getLast?_append, induction]
      cases optional <;> simp [stop, List.getLast?_cons]

/-- Text without an opening brace is not rewritten. -/
theorem exists_of_normalizeChars {front back : List Char} (plain : '\x7b' ∉ front)
    (same : normalizeChars s = front ++ back) : ∃ rest, s = front ++ rest := by
  induction front generalizing s with
  | nil => exact ⟨s, rfl⟩
  | cons c front induction =>
      obtain ⟨other, plain⟩ := not_or.mp (mt List.mem_cons.mpr plain)
      have head := head?_normalizeChars s
      rw [same] at head
      cases s with
      | nil => cases head
      | cons d rest =>
          cases head
          rw [normalizeChars_char fun brace => absurd brace.symm other] at same
          obtain ⟨after, rfl⟩ := induction plain (List.cons.inj same).2
          exact ⟨after, rfl⟩

theorem placeholder?_normalizeChars (none_ : placeholder? s = none) :
    placeholder? (normalizeChars s) = none := by
  by_contra some_
  obtain ⟨⟨name, optional⟩, found⟩ := Option.ne_none_iff_exists'.mp some_
  obtain ⟨isName, back, same⟩ := exists_of_placeholder? found
  -- Up to its end the placeholder has no opening brace, so it was there before the rewriting.
  have plain : '\x7b' ∉ name ++ stop optional := by
    rw [List.mem_append, not_or]
    exact ⟨isName.no_brace, by cases optional <;> decide⟩
  obtain ⟨rest, rfl⟩ := exists_of_normalizeChars plain same
  rw [placeholder?_of_isName isName] at none_
  cases none_

/-- Rewriting neither makes nor joins nor takes away a placeholder. -/
theorem pieces_normalizeChars (s : List Char) :
    pieces (normalizeChars s) = (pieces s).map Piece.asked := by
  induction s using induct with
  | nil => rfl
  | char c rest stays induction =>
      rw [normalizeChars_char stays, pieces_char stays,
        pieces_char fun brace => placeholder?_normalizeChars (stays brace), induction]
      rfl
  | placeholder name optional rest isName induction =>
      rw [normalizeChars_placeholder isName, pieces_placeholder isName,
        pieces_placeholder isName, induction]
      rfl

theorem Piece.plain_asked (piece : Piece) : piece.asked.plain = piece.plain := by
  cases piece <;> rfl

theorem normalizeChars_normalizeChars (s : List Char) :
    normalizeChars (normalizeChars s) = normalizeChars s := by
  rw [normalizeChars, pieces_normalizeChars, List.flatMap_map]
  simp only [Piece.plain_asked]
  rfl

theorem parameters_normalize (path : String) :
    parameters (normalize path) = (parameters path).map fun found => (found.1, false) := by
  rw [parameters, normalize, String.toList_ofList, pieces_normalizeChars, parameters,
    List.filterMap_map, List.map_filterMap]
  congr 1
  funext piece
  cases piece <;> rfl

/-! Slashes around a path. -/

def placeholders (s : List Char) : List (String × Bool) := (pieces s).filterMap Piece.parameter?

theorem placeholders_slash (rest : List Char) :
    placeholders ('/' :: rest) = placeholders rest := by
  rw [placeholders, pieces_char fun brace => absurd brace (by decide)]
  rfl

theorem placeholder?_concat_slash (none_ : placeholder? s = none) :
    placeholder? (s ++ ['/']) = none := by
  by_contra some_
  obtain ⟨⟨name, optional⟩, found⟩ := Option.ne_none_iff_exists'.mp some_
  obtain ⟨isName, rest, same⟩ := exists_of_placeholder? found
  -- A placeholder does not end in a slash, so it ends in front of the last one.
  rcases rest.eq_nil_or_concat' with rfl | ⟨before, last, rfl⟩
  · have last := congrArg List.getLast? same
    rw [List.append_nil, List.getLast?_append, List.getLast?_append] at last
    revert last
    cases optional <;> simp [stop]
  · rw [← List.append_assoc] at same
    obtain ⟨rfl, -⟩ := List.append_inj' same rfl
    rw [placeholder?_of_isName isName] at none_
    cases none_

theorem placeholders_concat_slash (s : List Char) :
    placeholders (s ++ ['/']) = placeholders s := by
  have last : pieces (s ++ ['/']) = pieces s ++ [.char '/'] := by
    induction s using induct with
    | nil => rfl
    | char c rest stays induction =>
        rw [List.cons_append, pieces_char stays,
          pieces_char fun brace => placeholder?_concat_slash (stays brace), induction]
        rfl
    | placeholder name optional rest isName induction =>
        rw [List.cons_append, List.append_assoc, pieces_placeholder isName,
          pieces_placeholder isName, induction]
        rfl
  rw [placeholders, last, List.filterMap_append]
  exact List.append_nil _

theorem placeholders_dropWhile (s : List Char) :
    placeholders (s.dropWhile (· = '/')) = placeholders s := by
  induction s with
  | nil => rfl
  | cons c rest induction =>
      by_cases slash : c = '/'
      · subst slash
        rw [List.dropWhile_cons_of_pos (by simp), induction, placeholders_slash]
      · rw [List.dropWhile_cons_of_neg (by simpa using slash)]

theorem placeholders_rdropWhile (s : List Char) :
    placeholders (s.rdropWhile (· = '/')) = placeholders s := by
  induction s using List.reverseRecOn with
  | nil => rfl
  | append_singleton s c induction =>
      by_cases slash : c = '/'
      · subst slash
        rw [List.rdropWhile_concat_pos _ _ _ (by simp), induction, placeholders_concat_slash]
      · rw [List.rdropWhile_concat_neg _ _ _ (by simpa using slash)]

end PathTemplate

namespace Route

/-- The path of the route without slashes around it. -/
def inner (route : Route) : List Char :=
  (route.uri.toList.dropWhile (· = '/')).rdropWhile (· = '/')

theorem path_eq (route : Route) : route.path = String.ofList ('/' :: route.inner) := rfl

theorem dropWhile_inner (route : Route) : route.inner.dropWhile (· = '/') = route.inner :=
  Text.dropWhile_rdropWhile _ _

theorem rdropWhile_inner (route : Route) : route.inner.rdropWhile (· = '/') = route.inner :=
  List.rdropWhile_idempotent _ _

theorem parameters_path (route : Route) :
    PathTemplate.parameters route.path = PathTemplate.parameters route.uri := by
  show PathTemplate.placeholders route.path.toList = PathTemplate.placeholders route.uri.toList
  rw [path_eq, String.toList_ofList, PathTemplate.placeholders_slash, inner,
    PathTemplate.placeholders_rdropWhile, PathTemplate.placeholders_dropWhile]

end Route

namespace Document

open PathTemplate

theorem pathOf_eq (route : Route) :
    pathOf route = String.ofList ('/' :: normalizeChars route.inner) := by
  rw [pathOf, Route.path_eq, PathTemplate.normalize, String.toList_ofList,
    normalizeChars_char fun brace => absurd brace (by decide)]

theorem inner_pathOf (route : Route) :
    Route.inner { route with uri := pathOf route } = normalizeChars route.inner := by
  have front : (normalizeChars route.inner).dropWhile (· = '/') = normalizeChars route.inner := by
    rw [Text.dropWhile_eq_self_iff, head?_normalizeChars]
    exact Text.dropWhile_eq_self_iff.mp route.dropWhile_inner
  have back : (normalizeChars route.inner).rdropWhile (· = '/') = normalizeChars route.inner := by
    rw [Text.rdropWhile_eq_self_iff, getLast?_normalizeChars]
    exact Text.rdropWhile_eq_self_iff.mp route.rdropWhile_inner
  rw [Route.inner]
  dsimp only
  rw [pathOf_eq, String.toList_ofList, List.dropWhile_cons_of_pos (by simp), front, back]

/-- The path of the document has the placeholders that are the parameters of the route, all of
them required. To write it once more, as a path or as the path of a route, changes nothing. -/
theorem placeholders_pathOf (route : Route) :
    (parameters (pathOf route)).map Prod.fst =
        (pathParameters route.uri).map Parameter.name ∧
      (∀ placeholder ∈ parameters (pathOf route), placeholder.2 = false) ∧
      PathTemplate.normalize (pathOf route) = pathOf route ∧
      pathOf { route with uri := pathOf route } = pathOf route := by
  have kept : parameters (pathOf route) =
      (parameters route.uri).map fun found => (found.1, false) := by
    rw [pathOf, parameters_normalize, Route.parameters_path]
  refine ⟨?_, ?_, ?_, ?_⟩
  · rw [kept, List.map_map, pathParameters, List.map_map]
    rfl
  · intro placeholder member
    rw [kept] at member
    obtain ⟨found, -, rfl⟩ := List.mem_map.mp member
    rfl
  · rw [pathOf, PathTemplate.normalize, PathTemplate.normalize, String.toList_ofList,
      normalizeChars_normalizeChars]
  · rw [pathOf_eq, inner_pathOf, normalizeChars_normalizeChars, pathOf_eq]

/-- The mark of an optional placeholder goes; what holds no name is no placeholder. -/
example :
    let uri := "users/\x7bid?\x7d/\x7b?\x7d/\x7btag\x7d/"
    parameters uri = [("id", true), ("tag", false)] ∧
      pathOf { uri, methods := ["GET"], action := "show" } =
        "/users/\x7bid\x7d/\x7b?\x7d/\x7btag\x7d" ∧
      parameters "/users/\x7bid\x7d/\x7b?\x7d/\x7btag\x7d" = [("id", false), ("tag", false)] := by
  decide +kernel

end Document
end RouteDocs
