import RouteDocs.Yaml.Cursor

/-! Texts in single or double quotes. -/

namespace RouteDocs.Yaml.Quoted

open Reader

def unescape? (c : Char) : Option Char :=
  match c with
  | '0' => some '\x00'
  | 'a' => some '\x07'
  | 'b' => some '\x08'
  | 't' => some '\t'
  | '\t' => some '\t'
  | 'n' => some '\n'
  | 'v' => some '\x0b'
  | 'f' => some '\x0c'
  | 'r' => some '\r'
  | 'e' => some '\x1b'
  | ' ' => some ' '
  | '\x22' => some '\x22'
  | '\\' => some '\\'
  | '/' => some '/'
  | 'N' => some '\x85'
  | '_' => some '\u00a0'
  | 'L' => some '\u2028'
  | 'P' => some '\u2029'
  | _ => none

def codeLength? (c : Char) : Option Nat :=
  match c with
  | 'x' => some 2
  | 'u' => some 4
  | 'U' => some 8
  | _ => none

def code (length : Nat) : Reader Nat := do
  let digits ← take length
  if digits.length < length || digits.any fun c => !isHexDigit c then fail
  else pure (readHex digits)

def isHighSurrogate (code : Nat) : Bool :=
  0xd800 ≤ code && code ≤ 0xdbff

def isLowSurrogate (code : Nat) : Bool :=
  0xdc00 ≤ code && code ≤ 0xdfff

def lowSurrogate? : Reader (Option Nat) := do
  let cursor ← get
  match cursor.rest with
  | '\\' :: 'u' :: rest =>
      let digits := rest.take 4
      let code := readHex digits
      if digits.length == 4 && digits.all isHexDigit && isLowSurrogate code then do
        skip 6
        pure (some code)
      else pure none
  | _ => pure none

/-- The character of a code. Two surrogates make up one character; a single one stands
for none. -/
def charOf (code : Nat) : Reader Char := do
  if 0x7fffffff < code then throw (.fault .codeTooLarge)
  else if 0x10ffff < code then throw (.fault .noCharacter)
  else if isHighSurrogate code then
    match ← lowSurrogate? with
    | some low => pure (Char.ofNat (0x10000 + 0x400 * (code - 0xd800) + (low - 0xdc00)))
    | none => pure '\ufffd'
  else if isLowSurrogate code then pure '\ufffd'
  else pure (Char.ofNat code)

def breaks : (fuel : Nat) → Reader (List Char)
  | 0 => fail
  | fuel + 1 => do
      if ← atMarker then fail
      skipWhile isSpaceOrTab
      match ← lineBreak with
      | [] => pure []
      | found => do pure (found ++ (← breaks fuel))

/-- An escape, the backslash already read. An escaped break joins two lines. -/
def escaped : Reader (List Char) := do
  let c ← peek
  match unescape? c, codeLength? c with
  | some found, _ => do
      skip 1
      pure [found]
  | none, some length => do
      skip 1
      pure [← charOf (← code length)]
  | none, none =>
      if endsLine c then do
        let _ ← lineBreak
        breaks (← fuel)
      else fail

def gap : Reader (List Char) := do
  let spaces ← takeWhile isSpaceOrTab
  let c ← peek
  if c = '\x00' then fail
  else if endsLine c then do
    let first ← lineBreak
    pure (foldBreaks first (← breaks (← fuel)))
  else pure spaces

/-- The text up to the closing quote, which is read too. -/
def text (double : Bool) : (fuel : Nat) → Reader (List Char)
  | 0 => fail
  | fuel + 1 => do
      let c ← peek
      let quote := if double then '\x22' else '\x27'
      if c = quote then do
        if !double && (← peekAt 1) = quote then do
          skip 2
          pure (quote :: (← text double fuel))
        else do
          skip 1
          pure []
      else if double && c = '\\' then do
        skip 1
        let found ← escaped
        pure (found ++ (← text double fuel))
      else if isGapOrBreak c then do
        let found ← gap
        pure (found ++ (← text double fuel))
      else do
        skip 1
        pure (c :: (← text double fuel))

def scalar (double : Bool) : Reader (List Char) := do
  skip 1
  text double (← fuel)

end RouteDocs.Yaml.Quoted
