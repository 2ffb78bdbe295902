import SharedTerminal.Text.Utf8

/-!
# Terminals

The terminal between a task and the person at the keyboard.  It collects what is typed into lines,
which can be edited until they are complete, and shows the echo; and it writes a line feed of the
task as carriage return and line feed.

A task that reads gets one completed line, or a part of a line that an end-of-input key completed.
An empty part is the end of the input.
-/

namespace SharedTerminal

namespace Terminal

/-- How a terminal is set. -/
structure Modes where
  /-- The columns of the terminal. -/
  cols : UInt16
  /-- The rows of the terminal. -/
  rows : UInt16
  /-- Whether what is typed is shown. -/
  echoes : Bool
  /-- Whether line feeds are written with a carriage return. -/
  returns : Bool
deriving DecidableEq, Repr

/-- The settings of a new terminal. -/
def Modes.fresh (cols rows : UInt16) : Modes := ⟨cols, rows, true, true⟩

/-- What appears on the terminal when bytes are written. -/
def Modes.written (m : Modes) (bytes : Bytes) : Bytes :=
  if m.returns then bytes.flatMap fun b => if b == 0x0A then [0x0D, 0x0A] else [b] else bytes

/-- What was typed: the line that is edited, and the parts that are complete. -/
structure Keyboard where
  /-- The line as edited so far. -/
  line : Bytes
  /-- The parts that a task can read, or has read. -/
  parts : List Bytes
deriving DecidableEq, Repr

/-- A keyboard on which nothing was typed. -/
def Keyboard.untouched : Keyboard := ⟨[], []⟩

/-- Whether a byte is a control character. -/
def isControl (b : UInt8) : Bool := b < 0x20 || b == 0x7F

/-- Whether a byte can stand in a word. -/
def isWordByte (b : UInt8) : Bool :=
  (0x30 ≤ b && b ≤ 0x39) || (0x41 ≤ b && b ≤ 0x5A) || (0x61 ≤ b && b ≤ 0x7A) || b == 0x5F

/-- How a byte of a line is shown: a control character other than the tab as a caret and a
letter. -/
def shown (b : UInt8) : Bytes :=
  if isControl b && b != 0x09 then [0x5E, b ^^^ 0x40] else [b]

/-- How a byte of a line is wiped out. -/
def wiped (b : UInt8) : Bytes := (shown b).flatMap fun _ => [0x08, 0x20, 0x08]

/-- How many bytes at the end of a line, given in reverse, make up its last word. -/
def lastWord (reversed : Bytes) : Nat :=
  let gap := reversed.takeWhile fun b => !isWordByte b
  gap.length + ((reversed.drop gap.length).takeWhile isWordByte).length

namespace Keyboard

/-- Removes bytes from the end of the line, and gives what is shown. -/
def erase (k : Keyboard) (count : Nat) : Keyboard × Bytes :=
  let kept := k.line.take (k.line.length - count)
  ({ k with line := kept }, (k.line.drop kept.length).reverse.flatMap wiped)

/-- Completes the line with more bytes. -/
def complete (k : Keyboard) (ending : Bytes) : Keyboard := ⟨[], k.parts ++ [k.line ++ ending]⟩

/-- Takes a key, and gives what is shown of it: the keys for the end of the line, the end of the
input, and the removal of a byte, a word and a line, and every other one for itself. -/
def press (m : Modes) (k : Keyboard) (b : UInt8) : Keyboard × Bytes :=
  if b == 0x0D || b == 0x0A then (k.complete [0x0A], m.written [0x0A])
  else if b == 0x04 then (k.complete [], [])
  else if b == 0x7F then k.erase 1
  else if b == 0x17 then k.erase (lastWord k.line.reverse)
  else if b == 0x15 then k.erase k.line.length
  else ({ k with line := k.line ++ [b] }, shown b)

/-- Takes keys, and gives what is shown of them. -/
def type (m : Modes) (k : Keyboard) (bytes : Bytes) : Keyboard × Bytes :=
  let (k, echo) := bytes.foldl
    (fun (k, echo) b =>
      let (k, more) := k.press m b
      (k, echo ++ more))
    (k, [])
  (k, if m.echoes then echo else [])

end Keyboard

example : (Keyboard.untouched.type (.fresh 80 24) (utf8 "ab\x7f\x01\r")) =
    (⟨[], [utf8 "a\x01\n"]⟩, utf8 "ab\x08 \x08^A\r\n") := by decide +kernel

end Terminal

end SharedTerminal
