import SharedTerminal.Text.Numeral
import SharedTerminal.Text.Unprintable

/-!
# Quoted text

Error texts show a context or a channel name in double quotes, so that spaces, controls and
combining characters can be told apart.  Quotes and backslashes get a backslash, the common
controls their letter, and every other character without a visible form of its own is written
as its code point in braces.  Apostrophes stay as they are.
-/

namespace SharedTerminal.Quoted

/-- The spelling of one character between double quotes. -/
def escape (c : Char) : List Char :=
  match c with
  | '\x00' => ['\\', '0']
  | '\t' => ['\\', 't']
  | '\r' => ['\\', 'r']
  | '\n' => ['\\', 'n']
  | '"' => ['\\', '"']
  | '\\' => ['\\', '\\']
  | c =>
    if Unicode.isExtending c || Unicode.isUnprintable c then
      ['\\', 'u', '{'] ++ Numeral.lowerHex c.toNat ++ ['}']
    else [c]

/-- A text in double quotes. -/
def quote (s : String) : String :=
  String.ofList ('"' :: s.toList.flatMap escape ++ ['"'])

end SharedTerminal.Quoted
