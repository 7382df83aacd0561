/-! Octets as text in base 64. -/

namespace RouteDocs.Base64

def alphabet : List Char :=
  "ABCDEFGHIJKLMNOPQRSTUVWXYZabcdefghijklmnopqrstuvwxyz0123456789+/".toList

def digit (n : Nat) : Char :=
  alphabet.getD (n % 64) '='

/-- Three octets give four digits; missing ones are filled up by `=`. -/
def digits : List Nat → List Char
  | a :: b :: c :: rest =>
      digit (a / 4) :: digit (a % 4 * 16 + b / 16) :: digit (b % 16 * 4 + c / 64) :: digit c ::
        digits rest
  | [a, b] => [digit (a / 4), digit (a % 4 * 16 + b / 16), digit (b % 16 * 4), '=']
  | [a] => [digit (a / 4), digit (a % 4 * 16), '=', '=']
  | [] => []

/-- Lines of at most `width` characters, each with a break; `room` is left in the line
being written. -/
def breakLines (width : Nat) : (room : Nat) → List Char → List Char
  | room, [] => if room = width then [] else ['\n']
  | 0, c :: rest => '\n' :: c :: breakLines width (width - 1) rest
  | room + 1, c :: rest => c :: breakLines width room rest

def encodeLines (octets : List UInt8) : List Char :=
  breakLines 76 76 (digits (octets.map UInt8.toNat))

def value? (c : Char) : Option Nat :=
  alphabet.findIdx? (· = c)

def octets : List Nat → List Nat
  | a :: b :: c :: d :: rest =>
      (a * 4 + b / 16) :: (b % 16 * 16 + c / 4) :: (c % 4 * 64 + d) :: octets rest
  | [a, b, c] => [a * 4 + b / 16, b % 16 * 16 + c / 4]
  | [a, b] => [a * 4 + b / 16]
  | _ => []

/-- Reads octets behind the digits of a group that is not full and so many signs of
padding. Characters that are no digits are passed over. -/
def decodeFrom (group : List Nat) (padding : Nat) : List Char → Option (List Nat)
  | [] => if group.isEmpty then some [] else none
  | c :: rest =>
      if c = '=' then
        if group.length < 2 then decodeFrom group padding rest
        else if 4 ≤ group.length + padding + 1 then some (octets group)
        else decodeFrom group (padding + 1) rest
      else match value? c with
        | none => decodeFrom group padding rest
        | some digit =>
            if group.length = 3 then
              (decodeFrom [] 0 rest).map fun more => octets (group ++ [digit]) ++ more
            else decodeFrom (group ++ [digit]) 0 rest

def decode? (s : List Char) : Option (List UInt8) :=
  (decodeFrom [] 0 s).map fun octets => octets.map UInt8.ofNat

end RouteDocs.Base64
