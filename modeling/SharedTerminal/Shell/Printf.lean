import SharedTerminal.Text.Numeral
import SharedTerminal.Text.Utf8

/-!
# Formatted output

Escapes, and formats with arguments.  Both are scanned byte by byte; a byte is looked at as the
character with its number, which is the ASCII character wherever the notation is concerned.
-/

namespace SharedTerminal.Shell.Printf

/-- Bytes as the characters with their numbers. -/
def letters (bytes : Bytes) : List Char := bytes.map fun b => Char.ofNat b.toNat

/-- The bytes of characters with numbers below 256. -/
def ofLetters (text : List Char) : Bytes := text.map fun c => UInt8.ofNat c.toNat

/-- Whether a character is an octal digit. -/
def isOctal (c : Char) : Bool := '0' ≤ c && c ≤ '7'

/-- The octal digits at the front, at most `limit` of them. -/
def octalDigits (limit : Nat) (text : List Char) : List Char := (text.take limit).takeWhile isOctal

/-- The character with the number that octal digits spell, in eight bits. -/
def octalLetter (digits : List Char) : Char :=
  Char.ofNat (Numeral.ofDigits 8 (digits.map fun c => c.toNat - 48) % 256)

/-- The character that a letter after a backslash stands for. -/
def escape? : Char → Option Char
  | 'a' => some '\x07'
  | 'b' => some '\x08'
  | 'f' => some '\x0c'
  | 'n' => some '\n'
  | 'r' => some '\r'
  | 't' => some '\t'
  | 'v' => some '\x0b'
  | '\\' => some '\\'
  | _ => none

/-- Resolves the escape after a backslash: a letter, or up to three octal digits.  A backslash
before anything else stands for itself. -/
def resolve (rest : List Char) : Char × List Char :=
  match rest with
  | [] => ('\\', [])
  | c :: after =>
    match escape? c with
    | some letter => (letter, after)
    | none =>
      let digits := octalDigits 3 rest
      if digits.isEmpty then ('\\', rest) else (octalLetter digits, rest.drop digits.length)

/-- A text with its escapes resolved, and whether it goes on to the end: `\c` ends all output.
After `\0` there can be three more octal digits. -/
def unescape : Nat → List Char → List Char × Bool
  | 0, text => (text, true)
  | n + 1, text =>
    match text with
    | [] => ([], true)
    | '\\' :: 'c' :: _ => ([], false)
    | '\\' :: '0' :: rest =>
      let digits := octalDigits 3 rest
      let (more, whole) := unescape n (rest.drop digits.length)
      (octalLetter digits :: more, whole)
    | '\\' :: rest =>
      let (letter, rest) := resolve rest
      let (more, whole) := unescape n rest
      (letter :: more, whole)
    | c :: rest =>
      let (more, whole) := unescape n rest
      (c :: more, whole)

/-- A directive of a format. -/
structure Directive where
  /-- Whether the value is put to the left. -/
  left : Bool
  /-- Whether the value is filled up with zeros. -/
  zeros : Bool
  /-- Whether a plus sign is written. -/
  plus : Bool
  /-- The least width. -/
  width : Nat
  /-- The precision, if one is given. -/
  precision : Option Nat
  /-- What the value is. -/
  kind : Char

/-- Reads a directive after the percent sign. -/
def directive? (text : List Char) : Option (Directive × List Char) :=
  let flags := text.takeWhile fun c => ['-', '+', ' ', '#', '0'].contains c
  let text := text.drop flags.length
  let width := text.takeWhile Numeral.isDigit
  let text := text.drop width.length
  let number (digits : List Char) : Nat := (Numeral.parse? 10 digits).getD 0
  let (precision, text) := match text with
    | '.' :: rest =>
      let digits := rest.takeWhile Numeral.isDigit
      (some (number digits), rest.drop digits.length)
    | _ => (none, text)
  match text with
  | kind :: rest =>
    some (⟨flags.contains '-', flags.contains '0', flags.contains '+', number width, precision,
      kind⟩, rest)
  | [] => none

/-- The kinds of signed integers. -/
def signedKinds : List Char := ['d', 'i']

/-- The kinds of integers. -/
def integerKinds : List Char := signedKinds ++ ['o', 'u', 'x', 'X']

/-- A value brought to the width of a directive. -/
def Directive.pad (d : Directive) (text : List Char) : List Char :=
  let gap := d.width - text.length
  if d.left then text ++ List.replicate gap ' '
  else if d.zeros && d.precision.isNone && integerKinds.contains d.kind then
    match text with
    | '-' :: digits => '-' :: List.replicate gap '0' ++ digits
    | _ => List.replicate gap '0' ++ text
  else List.replicate gap ' ' ++ text

/-- The integer at the front of a text, in the notation of the language, and whether it is all of
the text. -/
def leadingInteger (text : List Char) : Int × Bool :=
  match text with
  | '\'' :: c :: _ | '"' :: c :: _ => (c.toNat, true)
  | _ =>
    let text := text.dropWhile fun c => c == ' ' || c == '\t'
    let (negative, text) := match text with
      | '-' :: rest => (true, rest)
      | '+' :: rest => (false, rest)
      | _ => (false, text)
    let (base, text) := match text with
      | '0' :: 'x' :: rest | '0' :: 'X' :: rest => (16, rest)
      | '0' :: _ => (8, text)
      | _ => (10, text)
    let digits := text.takeWhile fun c => (Numeral.digitValue? base c).isSome
    let size := ((Numeral.parse? base digits).getD 0 : Nat)
    (if negative then -(size : Int) else size, digits.length == text.length && !digits.isEmpty)

/-- The digits of a number in a base. -/
def digits (base : Nat) (upper : Bool) (n : Nat) : List Char :=
  let text := Nat.toDigits base n
  if upper then text.map Char.toUpper else text

/-- The text of an integer under a directive. -/
def Directive.integer (d : Directive) (i : Int) : List Char :=
  let size : Nat := if signedKinds.contains d.kind then i.natAbs else (i % (UInt64.size : Int)).toNat
  let base := if d.kind == 'o' then 8 else if d.kind == 'x' || d.kind == 'X' then 16 else 10
  let text := digits base (d.kind == 'X') size
  let text := List.replicate ((d.precision.getD 0) - text.length) '0' ++ text
  if signedKinds.contains d.kind && i < 0 then '-' :: text
  else if signedKinds.contains d.kind && d.plus then '+' :: text
  else text

/-- What came of a format: what is written, the complaints, and whether all output ends. -/
structure Outcome where
  /-- What is written. -/
  text : List Char
  /-- The complaints. -/
  complaints : List String
  /-- Whether output ends. -/
  ended : Bool

/-- Goes through a format once, and gives the arguments that are left. -/
def once : Nat → List Char → List Bytes → Outcome × List Bytes
  | 0, _, arguments => (⟨[], [], true⟩, arguments)
  | n + 1, format, arguments =>
    let after (text : List Char) (complaints : List String) (rest : List Char)
        (arguments : List Bytes) : Outcome × List Bytes :=
      let (more, arguments) := once n rest arguments
      (⟨text ++ more.text, complaints ++ more.complaints, more.ended⟩, arguments)
    match format with
    | [] => (⟨[], [], false⟩, arguments)
    | '%' :: '%' :: rest => after ['%'] [] rest arguments
    | '\\' :: rest =>
      let (letter, rest) := resolve rest
      after [letter] [] rest arguments
    | '%' :: rest =>
      match directive? rest with
      | none => (⟨[], ["%: missing format character"], true⟩, arguments)
      | some (d, rest) =>
        let argument := letters (arguments.headD [])
        if d.kind == 's' then
          after (d.pad (argument.take (d.precision.getD argument.length))) [] rest arguments.tail
        else if d.kind == 'c' then after (d.pad (argument.take 1)) [] rest arguments.tail
        else if d.kind == 'b' then
          let (text, whole) := unescape argument.length argument
          if whole then after (d.pad text) [] rest arguments.tail
          else (⟨d.pad text, [], true⟩, arguments.tail)
        else if integerKinds.contains d.kind then
          let (i, whole) := leadingInteger argument
          let name := String.ofList argument
          let complaint :=
            if arguments.isEmpty || whole then []
            else if argument.head?.any fun c => Numeral.isDigit c || c == '-' || c == '+' then
              [name ++ ": not completely converted"]
            else [name ++ ": expected numeric value"]
          after (d.pad (d.integer i)) complaint rest arguments.tail
        else (⟨[], ["%" ++ String.ofList [d.kind] ++ ": invalid directive"], true⟩, arguments)
    | c :: rest => after [c] [] rest arguments

/-- Goes through a format until all arguments are used. -/
def repeated : Nat → List Char → List Bytes → Outcome
  | 0, _, _ => ⟨[], [], true⟩
  | n + 1, format, arguments =>
    let (first, rest) := once (format.length + 1) format arguments
    if first.ended || rest.isEmpty || rest.length == arguments.length then first
    else
      let more := repeated n format rest
      ⟨first.text ++ more.text, first.complaints ++ more.complaints, more.ended⟩

/-- What a format and its arguments write, and the complaints. -/
def format (pattern : Bytes) (arguments : List Bytes) : Bytes × List String :=
  let outcome := repeated (arguments.length + 1) (letters pattern) arguments
  (ofLetters outcome.text, outcome.complaints)

example : format (utf8 "%s=%03d\\n") [utf8 "a", utf8 "7", utf8 "b"] = (utf8 "a=007\nb=000\n", []) :=
  by decide +kernel

example : (format (utf8 "\\377\\033[%5s|%-3s|") [utf8 "é", utf8 "x"]).1 =
    [255, 27, 0x5B] ++ utf8 "   é|x  |" := by decide +kernel

end SharedTerminal.Shell.Printf
