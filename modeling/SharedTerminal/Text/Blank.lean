/-!
# Blank characters

The characters with the Unicode property White_Space, and the trimming of a text of them.
-/

namespace SharedTerminal.Blank

/-- Whether a character has the property White_Space. -/
def isBlank (c : Char) : Bool :=
  let n := c.toNat
  (9 ≤ n && n ≤ 13) || n == 0x20 || n == 0x85 || n == 0xA0 || n == 0x1680
    || (0x2000 ≤ n && n ≤ 0x200A) || n == 0x2028 || n == 0x2029 || n == 0x202F || n == 0x205F
    || n == 0x3000

/-- A text without the blank characters at its two ends. -/
def trim (text : List Char) : List Char :=
  ((text.dropWhile isBlank).reverse.dropWhile isBlank).reverse

theorem trim_concat {last : Char} (hlast : isBlank last = false) (text : List Char) :
    trim (text ++ [last]) = text.dropWhile isBlank ++ [last] := by
  have hfront : (text ++ [last]).dropWhile isBlank =
      text.dropWhile isBlank ++ [last] := by
    rw [List.dropWhile_append]
    split
    · next hempty => simp [hlast, List.isEmpty_iff.1 hempty]
    · rfl
  rw [trim, hfront]
  simp [hlast]

theorem length_trim_le (text : List Char) :
    (trim text).length ≤ (text.dropWhile isBlank).length := by
  have hback := (List.dropWhile_suffix isBlank
    (l := (text.dropWhile isBlank).reverse)).length_le
  simpa [trim] using hback

/-- A text with one more character at its end that is not blank is another command. -/
theorem trim_concat_ne {last : Char} (hlast : isBlank last = false) (text : List Char) :
    trim (text ++ [last]) ≠ trim text := by
  intro heq
  have hlength := congrArg List.length heq
  have hle := length_trim_le text
  rw [trim_concat hlast, List.length_append, List.length_singleton] at hlength
  omega

end SharedTerminal.Blank
