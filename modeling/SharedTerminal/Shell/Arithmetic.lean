import SharedTerminal.Text.Numeral

/-!
# Arithmetic

The value of an expression over integers of 64 bits: numbers in decimal, octal and hexadecimal,
variables, unary and binary operators, and parentheses.  Binary operators are read by their
strength: an operator takes as its right side everything that binds stronger than itself.
-/

namespace SharedTerminal.Shell.Arithmetic

/-- Why an expression has no value. -/
inductive Fault where
  /-- Something is missing. -/
  | malformed
  /-- Something is left over. -/
  | leftOver
  /-- Something is divided by zero. -/
  | divisionByZero
deriving DecidableEq, Repr

/-- The wording of a fault. -/
def Fault.message (expression : String) : Fault → String
  | malformed => "arithmetic expression: expecting primary: \"" ++ expression ++ "\""
  | leftOver => "arithmetic expression: expecting EOF: \"" ++ expression ++ "\""
  | divisionByZero => "arithmetic expression: division by zero: \"" ++ expression ++ "\""

/-- An integer brought into the range of 64 bits. -/
def wrap (i : Int) : Int := i.bmod UInt64.size

/-- The value of a truth. -/
def ofBool (b : Bool) : Int := if b then 1 else 0

/-- A binary operator: its spelling, its strength and its value. -/
structure Operator where
  /-- How it is written. -/
  spelling : List Char
  /-- How strongly it binds. -/
  strength : Nat
  /-- Its value. -/
  apply : Int → Int → Except Fault Int

/-- Divides, unless by zero. -/
def divide (f : Int → Int → Int) (a b : Int) : Except Fault Int :=
  if b == 0 then .error .divisionByZero else .ok (wrap (f a b))

/-- Combines two integers bit by bit. -/
def bitwise (f : BitVec 64 → BitVec 64 → BitVec 64) (a b : Int) : Int :=
  (f (BitVec.ofInt 64 a) (BitVec.ofInt 64 b)).toInt

/-- The binary operators.  One whose spelling begins with that of another comes before it. -/
def operators : List Operator :=
  [⟨['|', '|'], 1, fun a b => .ok (ofBool (a != 0 || b != 0))⟩,
    ⟨['&', '&'], 2, fun a b => .ok (ofBool (a != 0 && b != 0))⟩,
    ⟨['=', '='], 6, fun a b => .ok (ofBool (a == b))⟩,
    ⟨['!', '='], 6, fun a b => .ok (ofBool (a != b))⟩,
    ⟨['<', '<'], 8, fun a b => .ok (wrap (a * Int.pow 2 (b.toNat % 64)))⟩,
    ⟨['>', '>'], 8, fun a b => .ok (a / Int.pow 2 (b.toNat % 64))⟩,
    ⟨['<', '='], 7, fun a b => .ok (ofBool (a ≤ b))⟩,
    ⟨['>', '='], 7, fun a b => .ok (ofBool (b ≤ a))⟩,
    ⟨['<'], 7, fun a b => .ok (ofBool (a < b))⟩,
    ⟨['>'], 7, fun a b => .ok (ofBool (b < a))⟩,
    ⟨['|'], 3, fun a b => .ok (bitwise (· ||| ·) a b)⟩,
    ⟨['^'], 4, fun a b => .ok (bitwise (· ^^^ ·) a b)⟩,
    ⟨['&'], 5, fun a b => .ok (bitwise (· &&& ·) a b)⟩,
    ⟨['+'], 9, fun a b => .ok (wrap (a + b))⟩,
    ⟨['-'], 9, fun a b => .ok (wrap (a - b))⟩,
    ⟨['*'], 10, fun a b => .ok (wrap (a * b))⟩,
    ⟨['/'], 10, divide Int.tdiv⟩,
    ⟨['%'], 10, divide Int.tmod⟩]

/-- The operator at the front of a text. -/
def operator? (text : List Char) : Option Operator :=
  operators.find? fun o => o.spelling.isPrefixOf text

/-- The value of a numeral: hexadecimal after `0x`, octal after `0`, and decimal otherwise. -/
def numeral? (text : List Char) : Option Int :=
  match text with
  | '0' :: 'x' :: digits | '0' :: 'X' :: digits => (Numeral.parse? 16 digits).map Int.ofNat
  | ['0'] => some 0
  | '0' :: digits => (Numeral.parse? 8 digits).map Int.ofNat
  | digits => (Numeral.parse? 10 digits).map Int.ofNat

/-- A text without the blanks in front. -/
def skip (text : List Char) : List Char := text.dropWhile fun c => c == ' ' || c == '\t' || c == '\n'

mutual

/-- The value at the front of a text, with all operators that bind stronger than a given one. -/
def value (valueOf : List Char → Int) : Nat → Nat → List Char → Except Fault (Int × List Char)
  | 0, _, _ => .error .malformed
  | n + 1, strength, text => do
    let (first, rest) ← primary valueOf n (skip text)
    more valueOf n strength first rest

/-- Goes on with the operators after a value. -/
def more (valueOf : List Char → Int) :
    Nat → Nat → Int → List Char → Except Fault (Int × List Char)
  | 0, _, _, _ => .error .malformed
  | n + 1, strength, first, text =>
    match operator? (skip text) with
    | some o =>
      if o.strength ≤ strength then .ok (first, text)
      else do
        let (second, rest) ← value valueOf n o.strength ((skip text).drop o.spelling.length)
        more valueOf n strength (← o.apply first second) rest
    | none => .ok (first, text)

/-- The value of what stands between operators. -/
def primary (valueOf : List Char → Int) : Nat → List Char → Except Fault (Int × List Char)
  | 0, _ => .error .malformed
  | n + 1, text =>
    match text with
    | '(' :: rest => do
      let (inside, rest) ← value valueOf n 0 rest
      match skip rest with
      | ')' :: rest => return (inside, rest)
      | _ => throw .malformed
    | '-' :: rest => do
      let (inside, rest) ← primary valueOf n (skip rest)
      return (wrap (-inside), rest)
    | '+' :: rest => primary valueOf n (skip rest)
    | '!' :: rest => do
      let (inside, rest) ← primary valueOf n (skip rest)
      return (ofBool (inside == 0), rest)
    | '~' :: rest => do
      let (inside, rest) ← primary valueOf n (skip rest)
      return (-inside - 1, rest)
    | _ =>
      let token := text.takeWhile fun c => c.isAlphanum || c == '_'
      let rest := text.drop token.length
      match token with
      | [] => .error .malformed
      | c :: _ =>
        if c.isDigit then
          match numeral? token with
          | some i => .ok (wrap i, rest)
          | none => .error .malformed
        else .ok (valueOf token, rest)

end

/-- The value at the front of a text: a condition with two alternatives, or a value. -/
def conditional (valueOf : List Char → Int) : Nat → List Char → Except Fault (Int × List Char)
  | 0, _ => .error .malformed
  | n + 1, text => do
    let (condition, rest) ← value valueOf (4 * text.length + 4) 0 text
    match skip rest with
    | '?' :: rest => do
      let (first, rest) ← conditional valueOf n rest
      match skip rest with
      | ':' :: rest => do
        let (second, rest) ← conditional valueOf n rest
        return (if condition != 0 then first else second, rest)
      | _ => throw .malformed
    | rest => return (condition, rest)

/-- The value of a whole expression. -/
def evaluate (valueOf : List Char → Int) (text : List Char) : Except Fault Int := do
  let (result, rest) ← conditional valueOf (text.length + 1) text
  if (skip rest).isEmpty then return result else throw .leftOver

example : (evaluate (fun _ => 0) "1 + 2 * (3 - 010) % 4".toList).toOption =
    some (1 + Int.tmod (2 * -5) 4) := by decide +kernel

end SharedTerminal.Shell.Arithmetic
