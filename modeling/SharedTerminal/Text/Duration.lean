/-!
# Durations

A span of time with a resolution of a nanosecond, and its text: the largest of the units `s`,
`ms`, `µs` and `ns` that it fills, as a decimal without trailing zeros.
-/

namespace SharedTerminal

/-- A span of time. -/
structure Duration where
  /-- The length in nanoseconds. -/
  nanoseconds : Nat
deriving DecidableEq, Repr

namespace Duration

/-- The span of a number of seconds. -/
def ofSeconds (n : Nat) : Duration := ⟨n * 1000000000⟩

/-- The span of a number of milliseconds. -/
def ofMilliseconds (n : Nat) : Duration := ⟨n * 1000000⟩

/-- Whether no time passes in the span. -/
def isZero (d : Duration) : Bool := d.nanoseconds == 0

/-- Drops the zeros at the end of a list of digits. -/
def dropTrailingZeros (digits : List Char) : List Char :=
  (digits.reverse.dropWhile (· == '0')).reverse

/-- The digits of `fraction` when `unit` is one and a power of ten: padded on the left. -/
def fractionDigits (width fraction : Nat) : List Char :=
  let digits := (toString fraction).toList
  dropTrailingZeros (List.replicate (width - digits.length) '0' ++ digits)

/-- A number of nanoseconds as a decimal count of a unit of `10 ^ places` nanoseconds. -/
def inUnit (places nanoseconds : Nat) (name : String) : String :=
  let whole := toString (nanoseconds / Nat.pow 10 places)
  match fractionDigits places (nanoseconds % Nat.pow 10 places) with
  | [] => whole ++ name
  | digits => whole ++ "." ++ String.ofList digits ++ name

/-- The text of a span. -/
def text (d : Duration) : String :=
  let n := d.nanoseconds
  if 1000000000 ≤ n then inUnit 9 n "s"
  else if 1000000 ≤ n then inUnit 6 n "ms"
  else if 1000 ≤ n then inUnit 3 n "µs"
  else inUnit 0 n "ns"

end Duration

end SharedTerminal
