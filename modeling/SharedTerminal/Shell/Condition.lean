import SharedTerminal.Shell.Printf
import SharedTerminal.Shell.World

/-!
# Conditions

The conditions of `test`: comparisons of texts and integers, questions about files and streams, and
their combinations.
-/

namespace SharedTerminal.Shell.Condition

/-- The integer that a text spells, blanks aside. -/
def integer? (text : Bytes) : Option Int :=
  let letters := (Printf.letters text).dropWhile (· == ' ')
  match letters with
  | '-' :: digits => (Numeral.parse? 10 digits).map fun n => -(n : Int)
  | '+' :: digits => (Numeral.parse? 10 digits).map Int.ofNat
  | digits => (Numeral.parse? 10 digits).map Int.ofNat

/-- The comparison of texts with a name. -/
def comparison? : String → Option (Bytes → Bytes → Bool)
  | "=" | "==" => some fun a b => a == b
  | "!=" => some fun a b => a != b
  | _ => none

/-- The comparison of integers with a name. -/
def relation? : String → Option (Int → Int → Bool)
  | "-eq" => some fun a b => a == b
  | "-ne" => some fun a b => a != b
  | "-lt" => some fun a b => a < b
  | "-le" => some fun a b => a ≤ b
  | "-gt" => some fun a b => b < a
  | "-ge" => some fun a b => b ≤ a
  | _ => none

/-- What stands under a path. -/
def stored (w : World) (path : Bytes) : Stored :=
  let path := Utf8.decodeLossy path
  let path := if Machine.isAbsolute path then path else w.directory ++ ['/'] ++ path
  match w.files.lookup path with
  | some bytes => .file bytes
  | none => w.machine.find path

/-- Whether a descriptor is the terminal. -/
def isTerminal (s : Streams) (descriptor : Bytes) : Bool :=
  match integer? descriptor with
  | some 0 => s.input == .terminal
  | some 1 => s.output == .terminal
  | some 2 => s.complaints == .terminal
  | _ => false

/-- The question with a name. -/
def question? (w : World) (s : Streams) : String → Option (Bytes → Bool)
  | "-n" => some fun a => !a.isEmpty
  | "-z" => some fun a => a.isEmpty
  | "-t" => some (isTerminal s)
  | "-e" => some fun a => stored w a != .absent
  | "-d" => some fun a => stored w a = .directory
  | "-f" => some fun a => match stored w a with
    | .file _ | .program => true
    | _ => false
  | "-r" | "-w" => some fun a => stored w a != .absent
  | "-x" => some fun a => stored w a = .program || stored w a = .directory
  | "-s" => some fun a => match stored w a with
    | .file bytes => !bytes.isEmpty
    | .program | .directory => true
    | .absent => false
  | _ => none

/-- The words of a condition. -/
abbrev Words : Type := List Bytes

/-- A word as the name of an operator. -/
def operator (word : Bytes) : String := String.ofList (Utf8.decodeLossy word)

mutual

/-- The truth of conditions joined by `-o`. -/
def disjunction (w : World) (s : Streams) : Nat → Words → Except String (Bool × Words)
  | 0, _ => .error "unexpected operator"
  | n + 1, words => do
    let (first, rest) ← conjunction w s n words
    match rest with
    | word :: more =>
      if operator word == "-o" then
        let (second, rest) ← disjunction w s n more
        return (first || second, rest)
      else return (first, rest)
    | [] => return (first, [])

/-- The truth of conditions joined by `-a`. -/
def conjunction (w : World) (s : Streams) : Nat → Words → Except String (Bool × Words)
  | 0, _ => .error "unexpected operator"
  | n + 1, words => do
    let (first, rest) ← primary w s n words
    match rest with
    | word :: more =>
      if operator word == "-a" then
        let (second, rest) ← conjunction w s n more
        return (first && second, rest)
      else return (first, rest)
    | [] => return (first, [])

/-- The truth of one condition. -/
def primary (w : World) (s : Streams) : Nat → Words → Except String (Bool × Words)
  | 0, _ => .error "unexpected operator"
  | n + 1, words =>
    match words with
    | [] => .error "argument expected"
    | [word] => .ok (!word.isEmpty, [])
    | first :: second :: rest =>
      match rest, comparison? (operator second), relation? (operator second) with
      | third :: rest, some test, _ => .ok (test first third, rest)
      | third :: rest, none, some test =>
        match integer? first, integer? third with
        | some a, some b => .ok (test a b, rest)
        | none, _ => .error ("Illegal number: " ++ operator first)
        | _, none => .error ("Illegal number: " ++ operator third)
      | _, _, _ =>
        match operator first with
        | "!" => do
          let (inside, rest) ← primary w s n (second :: rest)
          return (!inside, rest)
        | "(" => do
          let (inside, rest) ← disjunction w s n (second :: rest)
          match rest with
          | word :: rest =>
            if operator word == ")" then return (inside, rest) else throw "closing paren expected"
          | [] => throw "closing paren expected"
        | name =>
          match question? w s name with
          | some test => .ok (test second, rest)
          | none => .ok (!first.isEmpty, second :: rest)

end

/-- The truth of a condition, or the complaint about it.  No words are false. -/
def evaluate (w : World) (s : Streams) (words : Words) : Except String Bool :=
  if words.isEmpty then .ok false
  else do
    let (truth, rest) ← disjunction w s (3 * words.length + 3) words
    match rest with
    | [] => return truth
    | word :: _ => throw (operator word ++ ": unexpected operator")

end SharedTerminal.Shell.Condition
