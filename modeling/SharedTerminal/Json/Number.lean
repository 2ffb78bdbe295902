import SharedTerminal.Json.Value

/-!
# JSON numbers

The grammar is that of RFC 8259: no leading zeros, a digit on both sides of a point, and a digit
after an exponent mark.  The digits are collected into a significand of 64 bits and a power of
ten; digits that no longer fit only move the power of ten.  A significand without power of ten is
an integer unless it lies below `-2 ^ 63` or is a negative zero.
-/

namespace SharedTerminal.Json

open Shape (Fault)

namespace Number

/-- The greatest significand. -/
def greatestSignificand : Nat := 0xFFFFFFFFFFFFFFFF

/-- Splits a text after its leading digits. -/
def spanDigits (s : List Char) : List Char × List Char := s.span Numeral.isDigit

/-- Appends digits to a significand while it fits, and counts those appended. -/
def absorb (significand : Nat) : List Char → Nat × Nat
  | [] => (significand, 0)
  | c :: rest =>
    let next := significand * 10 + (c.toNat - 48)
    if next ≤ greatestSignificand then
      let (s, n) := absorb next rest
      (s, n + 1)
    else (significand, 0)

/-- `x * 10 ^ exponent` in floating-point steps.  A step handles powers up to `10 ^ 308`, and
three of them bring any significand to zero.  There is no result beyond the finite numbers. -/
def shift (x : Binary64) (exponent : Int) : Nat → Option Binary64
  | 0 => some x
  | fuel + 1 =>
    if exponent.natAbs ≤ 308 then
      if 0 ≤ exponent then
        match x.mul (.powerOfTen exponent.toNat) with
        | .infinite _ => none
        | y => some y
      else some (x.div (.powerOfTen exponent.natAbs))
    else if x.isZero then some x
    else if 0 ≤ exponent then none
    else shift (x.div (.powerOfTen 308)) (exponent + 308) fuel

/-- The number with a sign, a significand and a power of ten. -/
def ofParts (negative : Bool) (significand : Nat) (exponent : Int) : Except Fault Value :=
  match shift (.ofNat significand) exponent 4 with
  | some x => .ok (.fraction (if negative then x.negate else x))
  | none => .error .malformed

/-- The greatest exponent that is taken at its value. -/
def greatestExponent : Nat := 0x7FFFFFFF

/-- Reads the part after an exponent mark: an optional sign and at least one digit. -/
def exponent (negative : Bool) (significand : Nat) (start : Int) (s : List Char) :
    Except Fault (Value × List Char) := do
  let (down, s) := match s with
    | '-' :: r => (true, r)
    | '+' :: r => (false, r)
    | _ => (false, s)
  let (digits, rest) := spanDigits s
  if digits.isEmpty then throw .malformed
  let e := Numeral.ofDigits 10 (digits.map fun c => c.toNat - 48)
  if greatestExponent < e then
    if significand != 0 && !down then throw .malformed
    let zero := Binary64.ofNat 0
    return (.fraction (if negative then zero.negate else zero), rest)
  let value ← ofParts negative significand (if down then start - e else start + e)
  return (value, rest)

/-- Reads what may follow the digits of a significand: an exponent, or nothing. -/
def afterDigits (negative : Bool) (significand : Nat) (start : Int) (s : List Char) :
    Except Fault (Value × List Char) := do
  match s with
  | 'e' :: r => exponent negative significand start r
  | 'E' :: r => exponent negative significand start r
  | _ =>
    let value ← ofParts negative significand start
    return (value, s)

/-- The integer with a sign and an absolute value; a negative zero and numbers below `-2 ^ 63`
are no integers. -/
def ofInteger (negative : Bool) (significand : Nat) : Value :=
  if !negative then .integer significand
  else if significand == 0 || 0x8000000000000000 < significand then
    .fraction (Binary64.ofNat significand).negate
  else .integer (-significand)

/-- Reads a number after its sign. -/
def unsigned (negative : Bool) (s : List Char) : Except Fault (Value × List Char) := do
  let (whole, rest) := spanDigits s
  match whole with
  | [] => throw .malformed
  | '0' :: _ :: _ => throw .malformed
  | _ =>
    let (significand, taken) := absorb 0 whole
    let dropped := whole.length - taken
    match rest with
    | '.' :: r =>
      let (fraction, rest) := spanDigits r
      if fraction.isEmpty then throw .malformed
      let (significand, taken) := absorb significand fraction
      afterDigits negative significand ((dropped : Int) - taken) rest
    | c :: _ =>
      if c == 'e' || c == 'E' || dropped != 0 then
        afterDigits negative significand dropped rest
      else return (ofInteger negative significand, rest)
    | [] =>
      if dropped != 0 then afterDigits negative significand dropped rest
      else return (ofInteger negative significand, rest)

/-- Reads a number. -/
def read (s : List Char) : Except Fault (Value × List Char) :=
  match s with
  | '-' :: r => unsigned true r
  | _ => unsigned false s

end Number

end SharedTerminal.Json
