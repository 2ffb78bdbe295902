import SharedTerminal.Text.Numeral
import SharedTerminal.Text.Utf8

/-!
# Percent-encoding

A byte outside a set of safe bytes is written as a percent sign and two upper-case hexadecimal
digits.  `encode` does so for the UTF-8 bytes of a text; `formEncode` is the rule of HTML forms,
in which the safe bytes are the ASCII letters and digits with `*`, `-`, `.` and `_`, and a space
is written as a plus sign.  `decode` undoes the escapes and leaves every other byte alone.
-/

namespace SharedTerminal.Percent

/-- A byte as a percent sign and two upper-case hexadecimal digits. -/
def escape (b : UInt8) : List Char :=
  ['%', Numeral.upperDigit (b.toNat / 16), Numeral.upperDigit (b.toNat % 16)]

/-- A text with every character outside `safe` replaced by the escapes of its UTF-8 bytes. -/
def encode (safe : Char → Bool) (text : List Char) : List Char :=
  text.flatMap fun c => if safe c then [c] else (String.utf8EncodeChar c).flatMap escape

/-- Undoes the escapes in a byte string.  A percent sign without two digits after it stays. -/
def decode : Bytes → Bytes
  | [] => []
  | 0x25 :: h :: l :: rest =>
    match Numeral.hexValue? (Char.ofNat h.toNat), Numeral.hexValue? (Char.ofNat l.toNat) with
    | some h', some l' => UInt8.ofNat (h' * 16 + l') :: decode rest
    | _, _ => 0x25 :: decode (h :: l :: rest)
  | b :: rest => b :: decode rest
termination_by bytes => bytes.length

/-- The bytes that an HTML form sends as they are. -/
def isFormSafe (c : Char) : Bool :=
  c.isAlphanum || c == '*' || c == '-' || c == '.' || c == '_'

/-- The spelling of a character in an HTML form. -/
def formEscape (c : Char) : List Char :=
  if c == ' ' then ['+']
  else if isFormSafe c then [c]
  else (String.utf8EncodeChar c).flatMap escape

/-- A text as an HTML form sends it. -/
def formEncode (text : List Char) : List Char := text.flatMap formEscape

end SharedTerminal.Percent
