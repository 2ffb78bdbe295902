/-!
# Bytes and characters

Terminal output is bytes, everything a person typed or configured is text, and UTF-8 joins the
two.  This module fixes the byte type of the library and reads bytes as text in three ways:

* `decodeLossy` reads every byte string: a maximal ill-formed part becomes one U+FFFD;
* `decode?` reads well-formed byte strings only;
* `validPrefix` reads as far as the bytes are well-formed and tells whether that was all.

All three are folds of one step, `scan`, which looks at the head of a nonempty byte string and
returns either a character with its length, or the length of an ill-formed part.
-/

namespace SharedTerminal

/-- A string of bytes: terminal input and output, and the payload of a frame. -/
abbrev Bytes : Type := List UInt8

namespace Utf8

/-- The UTF-8 form of a text. -/
def encode (text : List Char) : Bytes := text.flatMap String.utf8EncodeChar

@[simp] theorem encode_nil : encode [] = [] := rfl

@[simp] theorem encode_cons (c : Char) (text : List Char) :
    encode (c :: text) = String.utf8EncodeChar c ++ encode text := rfl

@[simp] theorem encode_append (s t : List Char) : encode (s ++ t) = encode s ++ encode t := by
  simp [encode, List.flatMap_append]

/-- What may follow a lead byte: how many continuation bytes, and the range of the first. -/
structure Lead where
  /-- The number of continuation bytes. -/
  rest : Nat
  /-- The least value of the first continuation byte. -/
  low : UInt8
  /-- The greatest value of the first continuation byte. -/
  high : UInt8

/-- The lead bytes of sequences of two to four bytes.  The narrow ranges after `E0`, `ED`, `F0`
and `F4` shut out overlong forms, surrogates and code points beyond U+10FFFF. -/
def lead? (b : UInt8) : Option Lead :=
  if 0xC2 ≤ b && b ≤ 0xDF then some ⟨1, 0x80, 0xBF⟩
  else if b == 0xE0 then some ⟨2, 0xA0, 0xBF⟩
  else if b == 0xED then some ⟨2, 0x80, 0x9F⟩
  else if 0xE1 ≤ b && b ≤ 0xEF then some ⟨2, 0x80, 0xBF⟩
  else if b == 0xF0 then some ⟨3, 0x90, 0xBF⟩
  else if 0xF1 ≤ b && b ≤ 0xF3 then some ⟨3, 0x80, 0xBF⟩
  else if b == 0xF4 then some ⟨3, 0x80, 0x8F⟩
  else none

/-- The outcome of looking at the head of a byte string. -/
inductive Scan where
  /-- A well-formed character, and the bytes after it. -/
  | char (c : Char) (after : Bytes)
  /-- An ill-formed part of maximal length, and the bytes after it. -/
  | broken (after : Bytes)

namespace Scan

/-- The bytes that are left after the part looked at. -/
def after : Scan → Bytes
  | char _ r => r
  | broken r => r

end Scan

/-- Reads `n` continuation bytes, the first of them between `low` and `high`, into the code point
begun by `acc`.  A byte out of range ends the part before it. -/
def continuation (acc : Nat) : Nat → UInt8 → UInt8 → Bytes → Scan
  | 0, _, _, bytes => .char (Char.ofNat acc) bytes
  | _ + 1, _, _, [] => .broken []
  | n + 1, low, high, b :: bytes =>
    if low ≤ b && b ≤ high then
      continuation (acc * 64 + b.toNat % 64) n 0x80 0xBF bytes
    else .broken (b :: bytes)

/-- Looks at a byte string that begins with `b`. -/
def scan (b : UInt8) (bytes : Bytes) : Scan :=
  if b < 0x80 then .char (Char.ofNat b.toNat) bytes
  else match lead? b with
    | none => .broken bytes
    | some l => continuation (b.toNat % Nat.pow 2 (6 - l.rest)) l.rest l.low l.high bytes

theorem length_after_continuation_le (acc n : Nat) (low high : UInt8) (bytes : Bytes) :
    (continuation acc n low high bytes).after.length ≤ bytes.length := by
  induction n generalizing acc low high bytes with
  | zero => simp [continuation, Scan.after]
  | succ n ih =>
    cases bytes with
    | nil => simp [continuation, Scan.after]
    | cons b bytes =>
      rw [continuation]
      split
      · exact Nat.le_succ_of_le (ih _ _ _ _)
      · simp [Scan.after]

/-- A scan consumes the byte it was given and maybe more. -/
theorem length_after_scan_le (b : UInt8) (bytes : Bytes) :
    (scan b bytes).after.length ≤ bytes.length := by
  unfold scan
  split
  · simp [Scan.after]
  · split
    · simp [Scan.after]
    · exact length_after_continuation_le _ _ _ _ _

/-- The character that stands for an ill-formed part. -/
def replacement : Char := '\uFFFD'

/-- Reads bytes as text; every maximal ill-formed part becomes one replacement character. -/
def decodeLossy : Bytes → List Char
  | [] => []
  | b :: bytes =>
    match _h : scan b bytes with
    | .char c after => c :: decodeLossy after
    | .broken after => replacement :: decodeLossy after
termination_by bytes => bytes.length
decreasing_by
  all_goals
    have le := length_after_scan_le b bytes
    rw [_h] at le
    exact Nat.lt_succ_of_le le

/-- Reads bytes as far as they are well-formed.  The flag tells whether nothing is left. -/
def validPrefix : Bytes → List Char × Bool
  | [] => ([], true)
  | b :: bytes =>
    match _h : scan b bytes with
    | .char c after =>
      let (text, whole) := validPrefix after
      (c :: text, whole)
    | .broken _ => ([], false)
termination_by bytes => bytes.length
decreasing_by
  all_goals
    have le := length_after_scan_le b bytes
    rw [_h] at le
    exact Nat.lt_succ_of_le le

/-- Reads well-formed bytes as text. -/
def decode? (bytes : Bytes) : Option (List Char) :=
  match validPrefix bytes with
  | (text, true) => some text
  | (_, false) => none

end Utf8

/-- The UTF-8 form of a string. -/
def utf8 (s : String) : Bytes := Utf8.encode s.toList

end SharedTerminal
