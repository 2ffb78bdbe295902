import SharedTerminal.Text.Numeral

/-!
# Punycode

The encoding of RFC 3492, which spells a label in ASCII: first the ASCII characters of the label,
then a hyphen if there are any, then where the others go in.  Those are inserted in the order of
their code points, each as the number of positions skipped since the last one, in digits whose
weights adapt to the numbers seen.
-/

namespace SharedTerminal.Punycode

/-- The number of digits. -/
def base : Nat := 36

/-- The first code point that is not ASCII. -/
def initialCode : Nat := 0x80

/-- The threshold of the digit at a position, counted from one, under a bias. -/
def threshold (position bias : Nat) : Nat := min 26 (max 1 (base * position - bias))

/-- How often the range of a digit fits into a number, and what is left. -/
def shrink : Nat → Nat → Nat → Nat × Nat
  | 0, k, delta => (k, delta)
  | fuel + 1, k, delta => if 455 < delta then shrink fuel (k + base) (delta / 35) else (k, delta)

/-- The bias after a number of skipped positions, with `count` characters in place. -/
def adapt (delta count : Nat) (first : Bool) : Nat :=
  let delta := if first then delta / 700 else delta / 2
  let (k, delta) := shrink delta 0 (delta + delta / count)
  k + 36 * delta / (delta + 38)

/-- The character for a digit value. -/
def digit (d : Nat) : Char := if d < 26 then Char.ofNat (97 + d) else Char.ofNat (22 + d)

/-- The value of a digit in either case. -/
def digitValue? (c : Char) : Option Nat :=
  if 'a' ≤ c && c ≤ 'z' then some (c.toNat - 97)
  else if 'A' ≤ c && c ≤ 'Z' then some (c.toNat - 65)
  else if '0' ≤ c && c ≤ '9' then some (c.toNat - 22)
  else none

/-! ## Encoding -/

/-- The digits of a number, from `position` on. -/
def digits (bias : Nat) (position n : Nat) : List Char :=
  let t := threshold position bias
  if h : n < t ∨ base ≤ t then [digit n]
  else
    have : (n - t) / (base - t) < n := by
      have ht : 1 ≤ t := by
        show 1 ≤ min 26 _
        omega
      have := Nat.div_le_self (n - t) (base - t)
      omega
    digit (t + (n - t) % (base - t)) :: digits bias (position + 1) ((n - t) / (base - t))
termination_by n

/-- The state between two insertions. -/
structure State where
  /-- How many positions were skipped since the last insertion. -/
  delta : Nat
  /-- The bias of the digits. -/
  bias : Nat
  /-- How many characters are in place. -/
  count : Nat
  /-- Whether nothing was inserted yet. -/
  first : Bool
  /-- What was written. -/
  out : List Char

/-- Passes one character of the label while those with code `n` are inserted. -/
def pass (n : Nat) (s : State) (c : Char) : State :=
  if c.toNat < n then { s with delta := s.delta + 1 }
  else if c.toNat = n then
    ⟨0, adapt s.delta (s.count + 1) s.first, s.count + 1, false,
      s.out ++ digits s.bias 1 s.delta⟩
  else s

/-- Inserts the characters with a code; `before` is the code that was last dealt with. -/
def round (label : List Char) (state : State × Nat) (n : Nat) : State × Nat :=
  let (s, next) := state
  let s := { s with delta := s.delta + (n - next) * (s.count + 1) }
  let s := label.foldl (pass n) s
  ({ s with delta := s.delta + 1 }, n + 1)

/-- A label in ASCII, without the mark that says so. -/
def encode (label : List Char) : List Char :=
  let basic := label.filter (·.toNat < initialCode)
  let codes := ((label.map Char.toNat).filter (initialCode ≤ ·)).mergeSort.eraseDups
  let out := if basic.isEmpty then [] else basic ++ ['-']
  (codes.foldl (round label) (⟨0, 72, basic.length, true, out⟩, initialCode)).1.out

/-! ## Decoding -/

/-- Reads a number in digits under a bias; `weight` is that of the next digit. -/
def number? (bias : Nat) : Nat → Nat → Nat → List Char → Option (Nat × List Char)
  | _, _, _, [] => none
  | position, weight, acc, c :: rest => do
    let d ← digitValue? c
    let t := threshold position bias
    let acc := acc + d * weight
    if UInt32.size ≤ acc then none
    else if d < t then some (acc, rest)
    else number? bias (position + 1) (weight * (base - t)) acc rest

/-- Inserts characters until the digits are used up.  `fuel` bounds their number. -/
def insert? : Nat → (n i bias : Nat) → (first : Bool) → List Char → List Char → Option (List Char)
  | _, _, _, _, _, out, [] => some out
  | 0, _, _, _, _, _, _ => none
  | fuel + 1, n, i, bias, first, out, rest => do
    let (delta, rest) ← number? bias 1 1 0 rest
    let count := out.length + 1
    let place := i + delta
    let n := n + place / count
    if 0x110000 ≤ n || (0xD800 ≤ n && n < 0xE000) then none
    else
      let slot := place % count
      insert? fuel n (slot + 1) (adapt delta count first) false
        (out.take slot ++ Char.ofNat n :: out.drop slot) rest

/-- The last hyphen of a text splits it, unless nothing or nothing else is in front of it. -/
def splitLast (text : List Char) : List Char × List Char :=
  let after := (text.reverse.takeWhile (· != '-')).reverse
  let before := (text.take (text.length - after.length)).dropLast
  if before.isEmpty then ([], text) else (before, after)

/-- The label that an ASCII text spells. -/
def decode? (text : List Char) : Option (List Char) :=
  if text.any (·.toNat ≥ initialCode) then none
  else
    let (basic, rest) := splitLast text
    insert? rest.length initialCode 0 72 true basic rest

example : encode ['m', 'ü', 'n', 'c', 'h', 'e', 'n'] = "mnchen-3ya".toList := by decide +kernel

example : decode? "mnchen-3ya".toList = some ['m', 'ü', 'n', 'c', 'h', 'e', 'n'] := by
  decide +kernel

end SharedTerminal.Punycode
