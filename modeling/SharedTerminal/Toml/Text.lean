import SharedTerminal.Text.Numeral

/-!
# TOML strings

A string is written in one of four ways: between double quotes, where a backslash begins an
escape; between single quotes, where every character stands for itself; and in both ways between
three quotes, where it may go over several lines.

`read?` reads all four.  `encode` prefers double quotes, turns to another way when that saves
escapes, and escapes what cannot be written otherwise.
-/

namespace SharedTerminal.Toml.Text

/-! ## Reading -/

/-- Whether a character can stand for itself: a tab, or anything that is no control. -/
def isPlain (c : Char) : Bool := c == '\t' || (0x20 ≤ c.toNat && c.toNat != 0x7F)

/-- Whether a character is a blank within a line. -/
def isBlank (c : Char) : Bool := c == ' ' || c == '\t'

/-- The rest of a text after the end of a line. -/
def afterLineEnd? : List Char → Option (List Char)
  | '\n' :: rest => some rest
  | '\r' :: '\n' :: rest => some rest
  | _ => none

/-- The character that a backslash and a letter stand for. -/
def letter? : Char → Option Char
  | 'b' => some '\x08'
  | 't' => some '\t'
  | 'n' => some '\n'
  | 'f' => some '\x0c'
  | 'r' => some '\r'
  | '"' => some '"'
  | '\\' => some '\\'
  | _ => none

/-- The character with a code in hexadecimal, unless it is none. -/
def coded? (digits : List Char) : Option Char := do
  let n ← Numeral.parse? 16 digits
  if n < 0xD800 || (0xE000 ≤ n && n < 0x110000) then some (Char.ofNat n) else none

/-- Puts a character in front of a text that was read. -/
def cons (c : Char) (r : List Char × List Char) : List Char × List Char := (c :: r.1, r.2)

/-- Reads a string after a double quote. -/
def basic? : List Char → Option (List Char × List Char)
  | [] => none
  | '"' :: rest => some ([], rest)
  | '\\' :: 'u' :: a :: b :: c :: d :: rest => do
    return cons (← coded? [a, b, c, d]) (← basic? rest)
  | '\\' :: 'U' :: a :: b :: c :: d :: e :: f :: g :: h :: rest => do
    return cons (← coded? [a, b, c, d, e, f, g, h]) (← basic? rest)
  | '\\' :: l :: rest => do return cons (← letter? l) (← basic? rest)
  | c :: rest =>
    if isPlain c && c != '\\' then (basic? rest).map (cons c) else none

/-- Reads a string after a single quote. -/
def literal? : List Char → Option (List Char × List Char)
  | [] => none
  | '\'' :: rest => some ([], rest)
  | c :: rest => if isPlain c then (literal? rest).map (cons c) else none

/-- What follows three closing quotes.  Up to two more belong to the string. -/
def closing (quote : Char) : List Char → List Char × List Char
  | a :: b :: rest =>
    if a = quote then if b = quote then ([quote, quote], rest) else ([quote], b :: rest)
    else ([], a :: b :: rest)
  | [a] => if a = quote then ([quote], []) else ([], [a])
  | [] => ([], [])

/-- Whether only blanks stand before the end of the line. -/
def endsLine (s : List Char) : Bool := (afterLineEnd? (s.dropWhile isBlank)).isSome

/-- Reads a string after three double quotes.  After a backslash at the end of a line, blanks and
line ends are skipped. -/
def longBasic? : (skipping : Bool) → List Char → Option (List Char × List Char)
  | _, [] => none
  | _, '"' :: '"' :: '"' :: rest => some (closing '"' rest)
  | _, '\\' :: 'u' :: a :: b :: c :: d :: rest => do
    return cons (← coded? [a, b, c, d]) (← longBasic? false rest)
  | _, '\\' :: 'U' :: a :: b :: c :: d :: e :: f :: g :: h :: rest => do
    return cons (← coded? [a, b, c, d, e, f, g, h]) (← longBasic? false rest)
  | _, '\\' :: l :: rest =>
    match letter? l with
    | some c => (longBasic? false rest).map (cons c)
    | none => if endsLine (l :: rest) then longBasic? true (l :: rest) else none
  | skipping, '\r' :: '\n' :: rest =>
    if skipping then longBasic? true rest else (longBasic? false rest).map (cons '\n')
  | skipping, c :: rest =>
    if c = '\n' ∨ isBlank c then
      if skipping then longBasic? true rest else (longBasic? false rest).map (cons c)
    else if isPlain c && c != '\\' then (longBasic? false rest).map (cons c)
    else none

/-- Reads a string after three single quotes. -/
def longLiteral? : List Char → Option (List Char × List Char)
  | [] => none
  | '\'' :: '\'' :: '\'' :: rest => some (closing '\'' rest)
  | '\r' :: '\n' :: rest => (longLiteral? rest).map (cons '\n')
  | c :: rest => if c = '\n' ∨ isPlain c then (longLiteral? rest).map (cons c) else none

/-- A text without a line end at its front. -/
def dropLineEnd (s : List Char) : List Char := (afterLineEnd? s).getD s

/-- Reads a string, if one begins here. -/
def read? : List Char → Option (String × List Char)
  | '"' :: '"' :: '"' :: rest => finish (longBasic? false (dropLineEnd rest))
  | '"' :: rest => finish (basic? rest)
  | '\'' :: '\'' :: '\'' :: rest => finish (longLiteral? (dropLineEnd rest))
  | '\'' :: rest => finish (literal? rest)
  | _ => none
where
  /-- The text that was read, as a string. -/
  finish (r : Option (List Char × List Char)) : Option (String × List Char) :=
    r.map fun (text, rest) => (String.ofList text, rest)

/-! ## Writing -/

/-- The length of the longest run of a character, where `run` of them came just before. -/
def longestRun (c : Char) : (run : Nat) → List Char → Nat
  | run, [] => run
  | run, d :: rest => if d = c then longestRun c (run + 1) rest else max run (longestRun c 0 rest)

/-- Whether a character can only be written as an escape. -/
def needsEscape (c : Char) : Bool := c != '\n' && !isPlain c

/-- The escape of a character between double quotes. -/
def escape (c : Char) : List Char :=
  match c with
  | '\x08' => ['\\', 'b']
  | '\t' => ['\\', 't']
  | '\n' => ['\\', 'n']
  | '\x0c' => ['\\', 'f']
  | '\r' => ['\\', 'r']
  | '"' => ['\\', '"']
  | '\\' => ['\\', '\\']
  | c => ['\\', 'u'] ++ Numeral.upperHexFixed 4 c.toNat

/-- Whether a character is escaped between double quotes of one line. -/
def isEscaped (c : Char) : Bool := c == '\t' || c == '"' || c == '\\' || !isPlain c

/-- A text between double quotes. -/
def encodeBasic (s : List Char) : List Char :=
  '"' :: (s.flatMap fun c => if isEscaped c then escape c else [c]) ++ ['"']

/-- The characters between three double quotes.  The third quote in a row is escaped. -/
def longBody : (quotes : Nat) → List Char → List Char
  | _, [] => []
  | quotes, c :: rest =>
    if c = '"' then
      if quotes = 2 then escape c ++ longBody 0 rest else c :: longBody (quotes + 1) rest
    else if c = '\n' then c :: longBody 0 rest
    else if isEscaped c then escape c ++ longBody 0 rest
    else c :: longBody 0 rest

/-- A line end, if the text has several lines. -/
def leading (s : List Char) : List Char := if s.contains '\n' then ['\n'] else []

/-- A text between three double quotes. -/
def encodeLongBasic (s : List Char) : List Char :=
  ['"', '"', '"'] ++ leading s ++ longBody 0 s ++ ['"', '"', '"']

/-- A text between single quotes, which must not occur in it. -/
def encodeLiteral (s : List Char) : List Char := '\'' :: s ++ ['\'']

/-- A text between three single quotes, which must not occur in it. -/
def encodeLongLiteral (s : List Char) : List Char :=
  ['\'', '\'', '\''] ++ leading s ++ s ++ ['\'', '\'', '\'']

/-- A text as a string: in the first way that needs no escapes, if there is one. -/
def encode (s : List Char) : List Char :=
  let escapes := s.any needsEscape
  let backslash := s.contains '\\'
  let lines := s.contains '\n'
  let double := longestRun '"' 0 s
  let single := longestRun '\'' 0 s
  if !escapes && !backslash && !lines && double = 0 then encodeBasic s
  else if !escapes && !lines && single = 0 then encodeLiteral s
  else if !escapes && !backslash && double ≤ 2 then encodeLongBasic s
  else if !escapes && single ≤ 2 then encodeLongLiteral s
  else if lines then encodeLongBasic s
  else encodeBasic s

end SharedTerminal.Toml.Text
