import SharedTerminal.Decimal.Binary64
import SharedTerminal.Toml.Text

/-!
# TOML numbers, dates and times

A number, a date or a time is a run of letters, digits and a few marks.  Between two digits of a
number an underscore may stand.  Whole numbers have 64 bits with a sign, and can be written in
base 16, 8 or 2 without one.
-/

namespace SharedTerminal.Toml

/-- What a run of characters can be. -/
inductive Scalar where
  /-- A truth value. -/
  | boolean (value : Bool)
  /-- A whole number. -/
  | integer (value : Int)
  /-- A number with a fraction or an exponent, or none that is finite. -/
  | fraction (value : Binary64)
  /-- A date, a time or both. -/
  | moment
deriving DecidableEq, Repr

namespace Number

/-- Digits of a base, at least one, between which single underscores may stand. -/
def digits? (base : Nat) (text : List Char) : Option (List Char) :=
  let groups := text.splitOn '_'
  if groups.all fun g => !g.isEmpty && g.all fun c => (Numeral.digitValue? base c).isSome then
    some groups.flatten
  else none

/-- Decimal digits of which the first is not a zero, unless it is the only one. -/
def whole? (text : List Char) : Option (List Char) := do
  let digits ← digits? 10 text
  if 1 < digits.length && digits.head? == some '0' then none else some digits

/-- Splits off a sign; the flag tells whether it is a minus. -/
def splitSign : List Char → Bool × List Char
  | '-' :: rest => (true, rest)
  | '+' :: rest => (false, rest)
  | text => (false, text)

/-- A whole number that fits into 64 bits with a sign. -/
def bounded? (n : Int) : Option Int := if -0x8000000000000000 ≤ n ∧ n < 0x8000000000000000 then some n else none

/-- The number that digits spell. -/
def value (base : Nat) (digits : List Char) : Nat := (Numeral.parse? base digits).getD 0

/-- Reads a whole number. -/
def integer? (text : List Char) : Option Int :=
  match text with
  | '0' :: 'x' :: rest => do bounded? (value 16 (← digits? 16 rest))
  | '0' :: 'o' :: rest => do bounded? (value 8 (← digits? 8 rest))
  | '0' :: 'b' :: rest => do bounded? (value 2 (← digits? 2 rest))
  | _ =>
    let (negative, rest) := splitSign text
    do
      let n : Int := value 10 (← whole? rest)
      bounded? (if negative then -n else n)

/-- The number nearest to `± mantissa * 10 ^ exponent`. -/
def nearest (negative : Bool) (mantissa : Nat) (exponent : Int) : Binary64 :=
  let digits : Int := (toString mantissa).length
  if mantissa = 0 ∨ digits + exponent < -400 then .ofRatio negative 0 1
  else if 400 < digits + exponent then .infinite negative
  else if 0 ≤ exponent then .ofRatio negative (mantissa * Nat.pow 10 exponent.toNat) 1
  else .ofRatio negative mantissa (Nat.pow 10 exponent.natAbs)

/-- Splits a text at the first character that meets a test. -/
def splitAt? (p : Char → Bool) (text : List Char) : List Char × Option (List Char) :=
  match text.span fun c => !p c with
  | (before, []) => (before, none)
  | (before, _ :: after) => (before, some after)

/-- Reads the part after an exponent mark. -/
def exponent? (text : List Char) : Option Int := do
  let (negative, rest) := splitSign text
  let n : Int := value 10 (← digits? 10 rest)
  return if negative then -n else n

/-- The values that are not finite, without a sign. -/
def special? (negative : Bool) (text : List Char) : Option Binary64 :=
  if text = ['i', 'n', 'f'] then some (.infinite negative)
  else if text = ['n', 'a', 'n'] then some .notANumber
  else none

/-- Reads a number with a fraction, an exponent or both.  A number above the greatest finite one
is refused. -/
def fraction? (text : List Char) : Option Binary64 :=
  let (negative, rest) := splitSign text
  match special? negative rest with
  | some x => some x
  | none => do
    let (decimal, exponent) := splitAt? (fun c => c == 'e' || c == 'E') rest
    let (whole, places) := splitAt? (· == '.') decimal
    if exponent.isNone && places.isNone then none
    let whole ← whole? whole
    let places ← match places with
      | some p => digits? 10 p
      | none => some []
    let e ← match exponent with
      | some e => exponent? e
      | none => some 0
    let x := nearest negative (value 10 (whole ++ places)) (e - places.length)
    if x = .infinite false then none else some x

end Number

namespace Moment

/-- A number of exactly so many digits within bounds. -/
def field? (width low high : Nat) (text : List Char) : Option Nat :=
  if text.length = width then
    (Numeral.parse? 10 text).filter fun n => low ≤ n && n ≤ high
  else none

/-- The number of days in a month. -/
def daysIn (year month : Nat) : Nat :=
  if month = 2 then
    if year % 4 = 0 ∧ (year % 100 ≠ 0 ∨ year % 400 = 0) then 29 else 28
  else if month = 4 ∨ month = 6 ∨ month = 9 ∨ month = 11 then 30
  else 31

/-- Whether a text is a date. -/
def isDate (text : List Char) : Bool :=
  match text.splitOn '-' with
  | [y, m, d] =>
    match field? 4 0 9999 y, field? 2 1 12 m with
    | some year, some month => (field? 2 1 (daysIn year month) d).isSome
    | _, _ => false
  | _ => false

/-- Whether a text is a number of seconds, maybe with a fraction. -/
def isSeconds (text : List Char) : Bool :=
  match Number.splitAt? (· == '.') text with
  | (s, none) => (field? 2 0 60 s).isSome
  | (s, some places) =>
    (field? 2 0 60 s).isSome && !places.isEmpty && places.all Numeral.isDigit

/-- Whether a text is a time of day. -/
def isTime (text : List Char) : Bool :=
  match text.splitOn ':' with
  | [h, m, s] => (field? 2 0 23 h).isSome && (field? 2 0 59 m).isSome && isSeconds s
  | _ => false

/-- Whether a text is a distance from universal time, without its sign. -/
def isOffset (text : List Char) : Bool :=
  match text.splitOn ':' with
  | [h, m] => (field? 2 0 23 h).isSome && (field? 2 0 59 m).isSome
  | _ => false

/-- Whether a text is a time of day, maybe with its distance from universal time. -/
def isZonedTime (text : List Char) : Bool :=
  let (time, offset) := text.span fun c => c != 'Z' && c != 'z' && c != '+' && c != '-'
  isTime time && match offset with
    | [] => true
    | [c] => c == 'Z' || c == 'z'
    | c :: rest => (c == '+' || c == '-') && isOffset rest

/-- Whether a text is a date, a time or both with a letter between them. -/
def isMoment (text : List Char) : Bool :=
  match text.drop 10 with
  | [] => isDate text || isTime text
  | c :: rest =>
    if c == 'T' || c == 't' then isDate (text.take 10) && isZonedTime rest else isTime text

end Moment

namespace Scalar

/-- Whether a character can be part of a number, a date, a time or a word. -/
def isTokenChar (c : Char) : Bool :=
  c.isAlphanum || c == '+' || c == '-' || c == '.' || c == '_' || c == ':'

/-- What a run of characters is. -/
def ofToken? (token : List Char) : Option Scalar :=
  if token = ['t', 'r', 'u', 'e'] then some (.boolean true)
  else if token = ['f', 'a', 'l', 's', 'e'] then some (.boolean false)
  else if Moment.isMoment token then some .moment
  else match Number.integer? token with
    | some n => some (.integer n)
    | none => (Number.fraction? token).map .fraction

/-- Reads a number, a date, a time or a word.  Between a date and a time one blank may stand. -/
def read? (s : List Char) : Option (Scalar × List Char) :=
  let token := s.takeWhile isTokenChar
  let rest := s.drop token.length
  match rest with
  | ' ' :: more =>
    let time := more.takeWhile isTokenChar
    if Moment.isDate token && Moment.isZonedTime time then
      some (.moment, more.drop time.length)
    else (ofToken? token).map fun v => (v, rest)
  | _ => (ofToken? token).map fun v => (v, rest)

end Scalar

end SharedTerminal.Toml
