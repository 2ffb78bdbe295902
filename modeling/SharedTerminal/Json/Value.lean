import SharedTerminal.Decimal.Binary64
import SharedTerminal.Shape

/-!
# JSON values

A value of RFC 8259 as the envelopes see it.  Numbers fall into two kinds: an integer between
`-2 ^ 63` and `2 ^ 64 - 1`, and everything else that is spelled as a number.  Members keep their
order and their repetitions, because both can decide what a message means.
-/

namespace SharedTerminal.Json

/-- A JSON value. -/
inductive Value where
  /-- The literal `null`. -/
  | null
  /-- One of the literals `true` and `false`. -/
  | boolean (value : Bool)
  /-- A number without fraction and exponent that fits into 64 bits. -/
  | integer (value : Int)
  /-- Any other number. -/
  | fraction (value : Binary64)
  /-- A string. -/
  | text (value : String)
  /-- An array. -/
  | array (items : List Value)
  /-- An object. -/
  | object (members : List (String × Value))

/-- Numbers are written positionally while the leading digit counts units between `10 ^ -5` and
`10 ^ 15`. -/
def numberLayout : Binary64.Layout := ⟨some (-5), some 15, fun _ => "null"⟩

namespace Value

/-- What an error says was found. -/
def found : Value → Shape.Found
  | null => .null
  | boolean b => .boolean b
  | integer i => .integer i
  | fraction x => .fraction (x.text numberLayout)
  | text s => .text s
  | array _ => .sequence
  | object _ => .map

end Value

end SharedTerminal.Json
