import SharedTerminal.Shape

/-!
# JSON strings

`encode` writes a text between double quotes and escapes what must be escaped: the quote, the
backslash and the controls below U+0020, each by its letter if it has one.  `read` accepts every
spelling of RFC 8259.  It works in two passes: `pieces` splits the spelling into characters and
code units of 16 bits, and `join` pairs the surrogates; a lone surrogate is no text.
-/

namespace SharedTerminal.Json.Text

open Shape (Fault)

/-! ## Writing -/

/-- The spelling of one character. -/
def escape (c : Char) : List Char :=
  match c with
  | '"' => ['\\', '"']
  | '\\' => ['\\', '\\']
  | '\x08' => ['\\', 'b']
  | '\t' => ['\\', 't']
  | '\n' => ['\\', 'n']
  | '\x0c' => ['\\', 'f']
  | '\r' => ['\\', 'r']
  | c =>
    if c.toNat < 0x20 then
      ['\\', 'u', '0', '0', Numeral.lowerDigit (c.toNat / 16), Numeral.lowerDigit (c.toNat % 16)]
    else [c]

/-- A text as a JSON string. -/
def encode (s : String) : List Char := '"' :: s.toList.flatMap escape ++ ['"']

/-! ## Reading -/

/-- A part of the spelling of a string. -/
inductive Piece where
  /-- A character, spelled as itself or by a letter. -/
  | char (c : Char)
  /-- A code unit of 16 bits, spelled by four digits. -/
  | unit (n : Nat)
deriving DecidableEq, Repr

/-- The character that a backslash and a letter stand for. -/
def letter? : Char → Option Char
  | '"' => some '"'
  | '\\' => some '\\'
  | '/' => some '/'
  | 'b' => some '\x08'
  | 'f' => some '\x0c'
  | 'n' => some '\n'
  | 'r' => some '\r'
  | 't' => some '\t'
  | _ => none

/-- The value of four hexadecimal digits. -/
def unit? (a b c d : Char) : Option Nat := do
  let a ← Numeral.hexValue? a
  let b ← Numeral.hexValue? b
  let c ← Numeral.hexValue? c
  let d ← Numeral.hexValue? d
  return ((a * 16 + b) * 16 + c) * 16 + d

/-- Splits the spelling after an opening quote into pieces, up to the closing quote.  A control
below U+0020 ends the attempt. -/
def pieces : List Char → Option (List Piece × List Char)
  | [] => none
  | '"' :: rest => some ([], rest)
  | '\\' :: 'u' :: a :: b :: c :: d :: rest => do
    let n ← unit? a b c d
    let (ps, rest) ← pieces rest
    return (.unit n :: ps, rest)
  | '\\' :: l :: rest => do
    let c ← letter? l
    let (ps, rest) ← pieces rest
    return (.char c :: ps, rest)
  | c :: rest =>
    if c.toNat < 0x20 || c == '\\' then none
    else do
      let (ps, rest) ← pieces rest
      return (.char c :: ps, rest)

/-- Whether a code unit opens a surrogate pair. -/
def isLeading (n : Nat) : Bool := 0xD800 ≤ n && n ≤ 0xDBFF

/-- Whether a code unit closes a surrogate pair. -/
def isTrailing (n : Nat) : Bool := 0xDC00 ≤ n && n ≤ 0xDFFF

/-- The text of a list of pieces. -/
def join : List Piece → Option (List Char)
  | [] => some []
  | .char c :: ps => (join ps).map (c :: ·)
  | .unit n :: .unit m :: ps =>
    if isLeading n then
      if isTrailing m then
        (join ps).map (Char.ofNat (0x10000 + (n - 0xD800) * 0x400 + (m - 0xDC00)) :: ·)
      else none
    else if isTrailing n then none
    else (join (.unit m :: ps)).map (Char.ofNat n :: ·)
  | .unit n :: ps =>
    if isLeading n || isTrailing n then none else (join ps).map (Char.ofNat n :: ·)

/-- Reads a string after its opening quote. -/
def read (s : List Char) : Except Fault (String × List Char) :=
  match pieces s with
  | none => .error .malformed
  | some (ps, rest) =>
    match join ps with
    | none => .error .malformed
    | some text => .ok (String.ofList text, rest)

end SharedTerminal.Json.Text
