import SharedTerminal.Text.Numeral

/-!
# Floating-point numbers and their shortest decimals

Envelopes and configuration files never need a fraction, but the text of an error quotes the
one that it found.  A number is `mantissa * 2 ^ exponent` with a mantissa below `2 ^ 53`; the
functions here round a quotient to the nearest such number, find the fewest decimal digits that
read back as the number, and lay them out.

All of it is exact arithmetic on natural numbers.
-/

namespace SharedTerminal

/-- A floating-point number of 64 bits. -/
inductive Binary64 where
  /-- The number `± mantissa * 2 ^ exponent`, with `mantissa < 2 ^ 53`. -/
  | finite (negative : Bool) (mantissa : Nat) (exponent : Int)
  /-- A number beyond the largest finite one. -/
  | infinite (negative : Bool)
  /-- The result of a calculation without a value. -/
  | notANumber
deriving DecidableEq, Repr

namespace Binary64

/-- The least mantissa of a number that has all its digits. -/
def leastMantissa : Nat := 0x10000000000000

/-- The least exponent: numbers below `2 ^ -1022` lose digits rather than exponent. -/
def leastExponent : Int := -1074

/-- The greatest exponent of a finite number. -/
def greatestExponent : Int := 971

/-- `num / den` divided by `2 ^ e`, as a pair of numerator and denominator. -/
def scale (num den : Nat) (e : Int) : Nat × Nat :=
  if 0 ≤ e then (num, den * Nat.pow 2 e.toNat) else (num * Nat.pow 2 (-e).toNat, den)

/-- The quotient rounded to the nearest integer, a half to the even neighbour. -/
def roundDiv (num den : Nat) : Nat :=
  let q := num / den
  let r := num % den
  if 2 * r < den || (2 * r == den && q % 2 == 0) then q else q + 1

/-- The exponent at which the quotient has 53 binary digits, or the least one. -/
def exponentOf (num den : Nat) : Int :=
  let guess : Int := (num.log2 : Int) - (den.log2 : Int) - 52
  let (n, d) := scale num den guess
  max leastExponent (if n / d < leastMantissa then guess - 1 else guess)

/-- The number nearest to `± num / den`. -/
def ofRatio (negative : Bool) (num den : Nat) : Binary64 :=
  if num == 0 || den == 0 then .finite negative 0 leastExponent
  else
    let e := exponentOf num den
    let (n, d) := scale num den e
    let m := roundDiv n d
    let (m, e) := if m == 2 * leastMantissa then (leastMantissa, e + 1) else (m, e)
    if greatestExponent < e then .infinite negative else .finite negative m e

/-- The number nearest to a natural number. -/
def ofNat (n : Nat) : Binary64 := ofRatio false n 1

/-- The absolute value of a finite number as numerator and denominator. -/
def ratio? : Binary64 → Option (Nat × Nat)
  | .finite _ m e => some (if 0 ≤ e then (m * Nat.pow 2 e.toNat, 1) else (m, Nat.pow 2 (-e).toNat))
  | _ => none

/-- The sign flipped. -/
def negate : Binary64 → Binary64
  | .finite s m e => .finite (!s) m e
  | .infinite s => .infinite (!s)
  | .notANumber => .notANumber

/-- Whether the number is zero. -/
def isZero : Binary64 → Bool
  | .finite _ m _ => m == 0
  | _ => false

/-- The product of two nonnegative numbers, rounded. -/
def mul (x y : Binary64) : Binary64 :=
  match x.ratio?, y.ratio? with
  | some (a, b), some (c, d) => ofRatio false (a * c) (b * d)
  | _, _ => .infinite false

/-- The quotient of two nonnegative numbers, rounded; the divisor is not zero. -/
def div (x y : Binary64) : Binary64 :=
  match x.ratio?, y.ratio? with
  | some (a, b), some (c, d) => ofRatio false (a * d) (b * c)
  | _, _ => .infinite false

/-- The number nearest to `10 ^ k`. -/
def powerOfTen (k : Nat) : Binary64 := ofRatio false (Nat.pow 10 k) 1

/-! ## The shortest decimal -/

/-- A positive decimal `0.d₁d₂… * 10 ^ point`, with nonzero first and last digit. -/
structure Decimal where
  /-- The digits, most significant first. -/
  digits : List Char
  /-- The place of the point, counted from before the first digit. -/
  point : Int

/-- The least `j ≤ fuel` with `den ≤ num * 10 ^ j`. -/
def placesBelow (num den : Nat) : Nat → Nat
  | 0 => 0
  | fuel + 1 => if den ≤ num then 0 else placesBelow (num * 10) den fuel + 1

/-- The power of ten of the leading decimal digit of a positive quotient. -/
def leadingPlace (num den : Nat) : Int :=
  if den ≤ num then ((toString (num / den)).length : Int) - 1
  else -(placesBelow num den 400 : Int)

/-- The ends of the interval of reals that round to `m * 2 ^ e`, in quarters of `2 ^ e`. -/
def quarters (m : Nat) (e : Int) : Nat × Nat :=
  (if m == leastMantissa && leastExponent < e then 4 * m - 1 else 4 * m - 2, 4 * m + 2)

/-- The number of units of `10 ^ g` that is nearest to `m * 2 ^ e` among those that read back. -/
def onGrid? (m : Nat) (e g : Int) : Option Nat :=
  -- The value, the ends of its interval and the grid, in units of a common denominator.
  let two (x : Int) : Nat := Nat.pow 2 x.toNat
  let ten (x : Int) : Nat := Nat.pow 10 x.toNat
  let factor := two e * ten (-g)
  let unit := 4 * two (-e) * ten g
  let value := 4 * m * factor
  let (lo, hi) := quarters m e
  let closed := m % 2 == 0
  let fits (c : Nat) : Bool :=
    if closed then lo * factor ≤ c * unit && c * unit ≤ hi * factor
    else lo * factor < c * unit && c * unit < hi * factor
  let c := value / unit
  let below := fits c && c != 0
  let above := fits (c + 1)
  if below && above then
    some (if value - c * unit ≤ (c + 1) * unit - value then c else c + 1)
  else if below then some c
  else if above then some (c + 1)
  else none

/-- Tries grids of one digit after another, finer each time. -/
def shortestFrom (m : Nat) (e place : Int) : Nat → Int → Decimal
  | 0, _ => ⟨['0'], 0⟩
  | fuel + 1, g =>
    match onGrid? m e g with
    | some c =>
      let spelled := (toString c).toList
      ⟨(spelled.reverse.dropWhile (· == '0')).reverse, g + spelled.length⟩
    | none => shortestFrom m e place fuel (g - 1)

/-- The fewest digits that read back as `m * 2 ^ e`, the nearest such decimal. -/
def shortest (m : Nat) (e : Int) : Decimal :=
  let (num, den) := scale m 1 (-e)
  let place := leadingPlace num den
  shortestFrom m e place 18 place

/-! ## Layouts -/

/-- The decimal written with its point in place; at least one digit follows the point. -/
def Decimal.positional (d : Decimal) : List Char :=
  let n : Int := d.digits.length
  if d.point ≤ 0 then ['0', '.'] ++ List.replicate (-d.point).toNat '0' ++ d.digits
  else if n ≤ d.point then
    d.digits ++ List.replicate (d.point - n).toNat '0' ++ ['.', '0']
  else d.digits.take d.point.toNat ++ ['.'] ++ d.digits.drop d.point.toNat

/-- The decimal written with one digit before the point and a signed exponent of ten. -/
def Decimal.scientific (d : Decimal) : List Char :=
  let head := d.digits.take 1
  let tail := d.digits.drop 1
  let exponent := d.point - 1
  head ++ (if tail.isEmpty then [] else '.' :: tail) ++ ['e']
    ++ (if exponent < 0 then ['-'] else ['+']) ++ (toString exponent.natAbs).toList

/-- When a number is written with an exponent of ten. -/
structure Layout where
  /-- The least power of ten of the leading digit that is written positionally. -/
  least : Option Int
  /-- The greatest power of ten of the leading digit that is written positionally. -/
  greatest : Option Int
  /-- The text of a number that is not finite, without its sign. -/
  beyond : Binary64 → String

/-- The text of a number. -/
def text (layout : Layout) (x : Binary64) : String :=
  match x with
  | .finite s m e =>
    let sign := if s then ['-'] else []
    let body :=
      if m == 0 then ['0', '.', '0']
      else
        let d := shortest m e
        let place := d.point - 1
        if (layout.least.all (· ≤ place)) && (layout.greatest.all (place ≤ ·)) then d.positional
        else d.scientific
    String.ofList (sign ++ body)
  | .infinite s => (if s then "-" else "") ++ layout.beyond x
  | .notANumber => layout.beyond x

end Binary64

end SharedTerminal
