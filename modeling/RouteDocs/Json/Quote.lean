/-! JSON text literals. -/

namespace RouteDocs.Json

def hex4 (n : Nat) : List Char :=
  let digits := Nat.toDigits 16 n
  List.replicate (4 - digits.length) '0' ++ digits

def unicodeEscape (n : Nat) : List Char :=
  '\\' :: 'u' :: hex4 n

/-- A character beyond U+FFFF is written as two halves. -/
def escapeAscii (c : Char) : List Char :=
  let n := c.toNat
  if n < 0x10000 then unicodeEscape n
  else
    let rest := n - 0x10000
    unicodeEscape (0xd800 + rest / 0x400) ++ unicodeEscape (0xdc00 + rest % 0x400)

/-- A character inside a literal; with `ascii`, whatever is no printable ASCII
character is escaped. -/
def quoteChar (ascii : Bool) (c : Char) : List Char :=
  match c with
  | '\x22' => ['\\', '\x22']
  | '\\' => ['\\', '\\']
  | '\n' => ['\\', 'n']
  | '\r' => ['\\', 'r']
  | '\t' => ['\\', 't']
  | '\x08' => ['\\', 'b']
  | '\x0c' => ['\\', 'f']
  | c =>
      if c.toNat < 0x20 then unicodeEscape c.toNat
      else if ascii && 0x7f ≤ c.toNat then escapeAscii c
      else [c]

def quoteChars (ascii : Bool) (s : List Char) : List Char :=
  '\x22' :: (s.flatMap (quoteChar ascii) ++ ['\x22'])

def quote (ascii : Bool) (s : String) : String :=
  String.ofList (quoteChars ascii s.toList)

end RouteDocs.Json
