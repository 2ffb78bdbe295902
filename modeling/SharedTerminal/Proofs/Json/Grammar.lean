import SharedTerminal.Json.Reader
import Mathlib.Tactic.Lemma

/-!
# The grammar of JSON

Which texts denote which values, after RFC 8259 and without a reader in mind.  `Text.Denotes` is the
grammar of strings, `Number.Literal` that of numbers, and `Denotes` that of values with a bounded
depth of brackets.  A text that is nothing but a value between space is a document (`IsDocument`).

Only values that the library can hold are denoted: a surrogate that has no partner and a number that
lies beyond the finite ones denote nothing.
-/

namespace SharedTerminal.Json

/-- A text of nothing but space. -/
def IsBlank (s : List Char) : Prop := ∀ c ∈ s, isSpace c = true

/-! ## Strings -/

namespace Text

/-- The character that two surrogates stand for. -/
def ofSurrogates (n m : Nat) : Char :=
  Char.ofNat (0x10000 + (n - 0xD800) * 0x400 + (m - 0xDC00))

/-- What stands between two quotes denotes a text. -/
inductive Denotes : List Char → List Char → Prop where
  /-- Nothing denotes the empty text. -/
  | nil : Denotes [] []
  /-- A character that is no control, no quote and no backslash denotes itself. -/
  | plain {c : Char} {e t : List Char} (hc : 0x20 ≤ c.toNat) (hquote : c ≠ '"') (hslash : c ≠ '\\')
    (h : Denotes e t) : Denotes (c :: e) (c :: t)
  /-- A backslash and a letter denote the character of the letter. -/
  | letter {l c : Char} {e t : List Char} (hl : letter? l = some c) (h : Denotes e t) :
    Denotes ('\\' :: l :: e) (c :: t)
  /-- Four digits that are no surrogate denote the character with that number. -/
  | unit {a b c d : Char} {n : Nat} {e t : List Char} (hn : unit? a b c d = some n)
    (hsingle : isLeading n = false ∧ isTrailing n = false) (h : Denotes e t) :
    Denotes ('\\' :: 'u' :: a :: b :: c :: d :: e) (Char.ofNat n :: t)
  /-- Twice four digits that are a leading and a trailing surrogate denote one character. -/
  | pair {a b c d a' b' c' d' : Char} {n m : Nat} {e t : List Char} (hn : unit? a b c d = some n)
    (hm : unit? a' b' c' d' = some m) (hleading : isLeading n = true)
    (htrailing : isTrailing m = true) (h : Denotes e t) :
    Denotes ('\\' :: 'u' :: a :: b :: c :: d :: '\\' :: 'u' :: a' :: b' :: c' :: d' :: e)
      (ofSurrogates n m :: t)

end Text

/-! ## Numbers -/

namespace Number

/-- At least one digit, and nothing else. -/
def IsDigits (s : List Char) : Prop := s ≠ [] ∧ ∀ c ∈ s, Numeral.isDigit c = true

/-- An exponent as it is written. -/
structure Exponent where
  /-- The mark in front. -/
  mark : Char
  /-- The sign, if there is one. -/
  sign : Option Char
  /-- The digits. -/
  digits : List Char

namespace Exponent

/-- The text of an exponent. -/
def chars (x : Exponent) : List Char := x.mark :: (x.sign.toList ++ x.digits)

/-- An exponent follows the grammar. -/
structure IsWritten (x : Exponent) : Prop where
  /-- The mark is an e of either case. -/
  mark : x.mark = 'e' ∨ x.mark = 'E'
  /-- The sign is a plus or a minus. -/
  sign : ∀ c ∈ x.sign, c = '+' ∨ c = '-'
  /-- There is a digit. -/
  digits : IsDigits x.digits

/-- The absolute value of an exponent. -/
def size (x : Exponent) : Nat := Numeral.ofDigits 10 (x.digits.map fun c => c.toNat - 48)

end Exponent

/-- A number as it is written. -/
structure Literal where
  /-- Whether there is a minus in front. -/
  negative : Bool
  /-- The digits before the point. -/
  whole : List Char
  /-- The digits behind the point, if there is one. -/
  fraction : Option (List Char)
  /-- The exponent, if there is one. -/
  exponent : Option Exponent

/-- The value of a significand with a power of ten and an exponent, if it is finite.  Beyond the
greatest exponent there is only zero. -/
def scaled? (negative : Bool) (significand : Nat) (start : Int) : Option Exponent → Option Value
  | none => (ofParts negative significand start).toOption
  | some x =>
    if greatestExponent < x.size then
      if significand ≠ 0 ∧ x.sign ≠ some '-' then none
      else some (.fraction (if negative then (Binary64.ofNat 0).negate else .ofNat 0))
    else
      (ofParts negative significand
        (if x.sign = some '-' then start - x.size else start + x.size)).toOption

namespace Literal

/-- The text of a number behind its sign. -/
def unsignedChars (l : Literal) : List Char :=
  l.whole ++ (l.fraction.elim [] ('.' :: ·) ++ l.exponent.elim [] Exponent.chars)

/-- The text of a number. -/
def chars (l : Literal) : List Char :=
  if l.negative then '-' :: l.unsignedChars else l.unsignedChars

/-- A number follows the grammar. -/
structure IsWritten (l : Literal) : Prop where
  /-- There is a digit before the point. -/
  whole : IsDigits l.whole
  /-- A zero in front stands alone. -/
  bare : ∀ c more, l.whole ≠ '0' :: c :: more
  /-- There is a digit behind the point. -/
  fraction : ∀ s ∈ l.fraction, IsDigits s
  /-- The exponent follows the grammar. -/
  exponent : ∀ x ∈ l.exponent, x.IsWritten

/-- The value of a number, if it is finite.  A number without point and exponent whose digits fit
into the significand is an integer, or else each digit that does not fit is a power of ten. -/
def value? (l : Literal) : Option Value :=
  let (significand, taken) := absorb 0 l.whole
  let dropped := l.whole.length - taken
  if l.fraction = none ∧ l.exponent.isNone = true ∧ dropped = 0 then
    some (ofInteger l.negative significand)
  else
    let (significand, taken) := absorb significand (l.fraction.getD [])
    scaled? l.negative significand ((dropped : Int) - taken) l.exponent

end Literal

end Number

/-! ## Values -/

/-- A text denotes a value without entries. -/
inductive DenotesScalar : List Char → Value → Prop where
  /-- The word of nothing. -/
  | null : DenotesScalar ['n', 'u', 'l', 'l'] .null
  /-- The word of truth. -/
  | yes : DenotesScalar ['t', 'r', 'u', 'e'] (.boolean true)
  /-- The word of falsehood. -/
  | no : DenotesScalar ['f', 'a', 'l', 's', 'e'] (.boolean false)
  /-- A string. -/
  | text {e t : List Char} (h : Text.Denotes e t) :
    DenotesScalar ('"' :: (e ++ ['"'])) (.text (String.ofList t))
  /-- A number. -/
  | number {l : Number.Literal} {v : Value} (h : l.IsWritten) (hv : l.value? = some v) :
    DenotesScalar l.chars v

section Entries

variable {α : Type} (R : List Char → α → Prop)

/-- What follows an entry up to the closing bracket: space, and more entries behind commas. -/
inductive Follows : List Char → List α → Prop where
  /-- There is no more entry. -/
  | nil {space : List Char} (hspace : IsBlank space) : Follows space []
  /-- There is another entry behind a comma. -/
  | cons {space before e more : List Char} {a : α} {as : List α} (hspace : IsBlank space)
    (hbefore : IsBlank before) (h : R e a) (hmore : Follows more as) :
    Follows (space ++ ',' :: (before ++ (e ++ more))) (a :: as)

/-- What stands between two brackets denotes entries. -/
inductive DenotesEntries : List Char → List α → Prop where
  /-- There is no entry. -/
  | nil {space : List Char} (hspace : IsBlank space) : DenotesEntries space []
  /-- There is an entry, and what follows it. -/
  | cons {before e more : List Char} {a : α} {as : List α} (hbefore : IsBlank before) (h : R e a)
    (hmore : Follows R more as) : DenotesEntries (before ++ (e ++ more)) (a :: as)

end Entries

/-- A text denotes a member of an object: a string, a colon and a value. -/
inductive DenotesMember (R : List Char → Value → Prop) : List Char → String × Value → Prop where
  /-- Space may stand on both sides of the colon. -/
  | mk {name t before after e : List Char} {v : Value} (hname : Text.Denotes name t)
    (hbefore : IsBlank before) (hafter : IsBlank after) (h : R e v) :
    DenotesMember R ('"' :: (name ++ '"' :: (before ++ ':' :: (after ++ e)))) (String.ofList t, v)

/-- A text denotes a value with at most `depth` arrays and objects inside each other. -/
def Denotes : Nat → List Char → Value → Prop
  | 0, e, v => DenotesScalar e v
  | depth + 1, e, v =>
    DenotesScalar e v ∨
    (∃ body items, e = '[' :: (body ++ [']']) ∧ v = .array items ∧
      DenotesEntries (Denotes depth) body items) ∨
    (∃ body members, e = '\x7b' :: (body ++ ['\x7d']) ∧ v = .object members ∧
      DenotesEntries (DenotesMember (Denotes depth)) body members)

/-- A text is a document that denotes a value. -/
def IsDocument (s : List Char) (v : Value) : Prop :=
  ∃ before e after, s = before ++ (e ++ after) ∧ IsBlank before ∧ IsBlank after ∧
    Denotes greatestDepth e v

end SharedTerminal.Json
