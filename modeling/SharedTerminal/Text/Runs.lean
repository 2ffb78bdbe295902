import SharedTerminal.Text.Numeral

/-!
# Tables over all characters

A table that says something of every character covers all code points in order, as runs.  A run is
written as the number of its code points in hexadecimal, unless it is one, a letter that is no
hexadecimal digit, and whatever belongs to the letter.  Blanks and line ends separate the runs.
-/

namespace SharedTerminal.Unicode

/-- Whether a character is ASCII. -/
def isAscii (c : Char) : Bool := c.toNat < 0x80

/-- Consecutive code points of which a table says the same. -/
structure Run where
  /-- How many code points there are. -/
  length : Nat
  /-- What is said of them, as a letter. -/
  letter : Char
  /-- What belongs to the letter. -/
  argument : List Char
deriving DecidableEq, Repr

namespace Run

/-- The value of a hexadecimal numeral, and one for an empty text. -/
def numeral (text : List Char) : Nat := (Numeral.parse? 16 text).getD 1

/-- The character with a code point in hexadecimal. -/
def character (text : List Char) : Char := Char.ofNat (numeral text)

/-- Whether a character is a lower-case hexadecimal digit. -/
def isHex (c : Char) : Bool := Numeral.isDigit c || ('a' ≤ c && c ≤ 'f')

/-- Whether a character stands between words. -/
def isGap (c : Char) : Bool := c == ' ' || c == '\n'

/-- The words of a text. -/
def words (text : String) : List (List Char) :=
  (text.toList.splitBy fun a b => !isGap a && !isGap b).filter fun word => !word.any isGap

/-- The run that a word describes. -/
def ofWord (word : List Char) : Run :=
  let count := word.takeWhile isHex
  match word.drop count.length with
  | letter :: argument => ⟨numeral count, letter, argument⟩
  | [] => ⟨0, ' ', []⟩

/-- The runs of a table or of a part of it. -/
def read (text : String) : List Run := (words text).map ofWord

/-- The run that holds a code point, which is `place` code points into the first of the runs or
behind it, and the place of the code point in that run. -/
def find? : (place : Nat) → List Run → Option (Nat × Run)
  | _, [] => none
  | place, run :: rest =>
    if place < run.length then some (place, run) else find? (place - run.length) rest

/-- The run that holds a character. -/
def of? (c : Char) (table : List Run) : Option Run := (find? c.toNat table).map (·.2)

end Run

end SharedTerminal.Unicode
