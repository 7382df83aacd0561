import RouteDocs.Schema.Tree
import RouteDocs.Text.Category

/-!
Paths with placeholders such as `users/{id}` or, where the part is optional,
`users/{id?}`. Braces that hold anything else stand for themselves.
-/

namespace RouteDocs.PathTemplate

inductive Piece where
  | char (c : Char)
  | placeholder (name : List Char) (optional : Bool)
  deriving DecidableEq, Repr

def placeholder? (s : List Char) : Option (List Char × Bool) :=
  let name := s.takeWhile Text.isWord
  if name.isEmpty then none
  else match s.dropWhile Text.isWord with
    | '\x7d' :: _ => some (name, false)
    | '?' :: '\x7d' :: _ => some (name, true)
    | _ => none

/-- The pieces of a path. The number `skip` counts the characters of a placeholder
still to pass. -/
def piecesFrom : (skip : Nat) → List Char → List Piece
  | _, [] => []
  | skip + 1, _ :: rest => piecesFrom skip rest
  | 0, c :: rest =>
      if c = '\x7b' then
        match placeholder? rest with
        | some (name, optional) =>
            .placeholder name optional ::
              piecesFrom (name.length + (if optional then 2 else 1)) rest
        | none => .char c :: piecesFrom 0 rest
      else .char c :: piecesFrom 0 rest

def pieces (path : List Char) : List Piece :=
  piecesFrom 0 path

def Piece.plain : Piece → List Char
  | char c => [c]
  | placeholder name _ => '\x7b' :: (name ++ ['\x7d'])

def normalizeChars (path : List Char) : List Char :=
  (pieces path).flatMap Piece.plain

def normalize (path : String) : String :=
  String.ofList (normalizeChars path.toList)

def Piece.parameter? : Piece → Option (String × Bool)
  | char _ => none
  | placeholder name optional => some (String.ofList name, optional)

def parameters (path : String) : List (String × Bool) :=
  (pieces path.toList).filterMap Piece.parameter?

/-- The name of a query parameter for a field: `address[city]` for `address.city` and
`tags[]` for `tags.*`. -/
def queryName (field : String) : String :=
  match Schema.segments field with
  | [] => ""
  | first :: rest =>
      first ++ String.join (rest.map fun part =>
        if part = Schema.wildcard then "[]" else "[" ++ part ++ "]")

end RouteDocs.PathTemplate
