/-!
# Numerals

Digits and their values, hexadecimal spellings in both cases, and the reading of an unsigned
decimal within a bound.
-/

namespace SharedTerminal.Numeral

/-- The character for a digit value below 16, with lower-case letters. -/
def lowerDigit (d : Nat) : Char := if d < 10 then Char.ofNat (48 + d) else Char.ofNat (87 + d)

/-- The character for a digit value below 16, with upper-case letters. -/
def upperDigit (d : Nat) : Char := if d < 10 then Char.ofNat (48 + d) else Char.ofNat (55 + d)

/-- The value of a hexadecimal digit of either case. -/
def hexValue? (c : Char) : Option Nat :=
  if '0' ≤ c && c ≤ '9' then some (c.toNat - 48)
  else if 'a' ≤ c && c ≤ 'f' then some (c.toNat - 87)
  else if 'A' ≤ c && c ≤ 'F' then some (c.toNat - 55)
  else none

/-- The value of a digit in a base of at most 16. -/
def digitValue? (base : Nat) (c : Char) : Option Nat :=
  (hexValue? c).filter (· < base)

/-- Whether a character is one of the ten ASCII digits. -/
def isDigit (c : Char) : Bool := '0' ≤ c && c ≤ '9'

/-- The shortest lower-case hexadecimal spelling of a number. -/
def lowerHex (n : Nat) : List Char :=
  if n < 16 then [lowerDigit n] else lowerHex (n / 16) ++ [lowerDigit (n % 16)]
termination_by n

/-- The lower-case hexadecimal spelling of a number in at least `width` digits. -/
def lowerHexPadded (width n : Nat) : List Char :=
  let digits := lowerHex n
  List.replicate (width - digits.length) '0' ++ digits

/-- The upper-case hexadecimal spelling of a number in exactly `width` digits. -/
def upperHexFixed : Nat → Nat → List Char
  | 0, _ => []
  | width + 1, n => upperHexFixed width (n / 16) ++ [upperDigit (n % 16)]

/-- The number that a list of digit values spells in a base, most significant digit first. -/
def ofDigits (base : Nat) (digits : List Nat) : Nat :=
  digits.foldl (fun acc d => acc * base + d) 0

/-- Reads digits of a base, at least one and nothing else. -/
def parse? (base : Nat) (text : List Char) : Option Nat :=
  if text.isEmpty then none else (text.mapM (digitValue? base)).map (ofDigits base)

/-- Reads a decimal of at most `bound`; one plus sign may stand in front. -/
def parseUpTo? (bound : Nat) (text : List Char) : Option Nat :=
  let digits := match text with
    | '+' :: rest => rest
    | _ => text
  (parse? 10 digits).filter (· ≤ bound)

example : lowerHex 0xa0 = ['a', '0'] ∧ lowerHexPadded 4 0x1f = ['0', '0', '1', 'f'] := by
  decide +kernel

example : parseUpTo? 65535 ['+', '0', '8', '0'] = some 80 ∧ parseUpTo? 65535 ['+'] = none
    ∧ parseUpTo? 65535 ['6', '5', '5', '3', '6'] = none := by decide +kernel

end SharedTerminal.Numeral
