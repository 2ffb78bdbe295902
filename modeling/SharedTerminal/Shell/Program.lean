import SharedTerminal.Shell.Printf
import SharedTerminal.Shell.World

/-!
# Programs

The small programs that command lines are made of: `cat`, `echo`, `head`, `sleep`, `stty`, `tr`,
and those that only succeed or fail.  A program gets the name that it was called by, its arguments
and its streams, and gives its exit status.
-/

namespace SharedTerminal.Shell

/-- What a program does. -/
abbrev Program : Type := Bytes → List Bytes → Streams → Run Nat

namespace Program

open Printf (letters ofLetters)

/-- Joins byte strings with a byte in between. -/
def joined (between : UInt8) (pieces : List Bytes) : Bytes := [between].intercalate pieces

/-- Complains as the program with a name. -/
def complain (s : Streams) (name : Bytes) (text : Bytes) : Run Unit :=
  Run.write s.complaints (name ++ utf8 ": " ++ text ++ utf8 "\n")

/-- Complains, points to the help, and fails. -/
def refuse (s : Streams) (name : Bytes) (text : Bytes) : Run Nat := do
  complain s name text
  Run.write s.complaints (utf8 "Try '" ++ name ++ utf8 " --help' for more information.\n")
  return 1

/-- A text in single quotes. -/
def quote (text : Bytes) : Bytes := utf8 "'" ++ text ++ utf8 "'"

/-- Complains about an option. -/
def refuseOption (s : Streams) (name : Bytes) (letter : UInt8) : Run Nat :=
  refuse s name (utf8 "invalid option -- " ++ quote [letter])

/-- Whether an argument is an option. -/
def isOption (argument : Bytes) : Bool :=
  match argument with
  | 0x2D :: _ :: _ => true
  | _ => false

/-- Keeps back what a program writes until it ends, unless it writes on the terminal. -/
def buffered (s : Streams) (run : Streams → Run Nat) : Run Nat := do
  if s.output == .terminal then run s
  else
    let (bytes, result) ← Run.catching fun sink => run { s with output := sink }
    match result with
    | .ok status =>
      Run.write s.output bytes
      return status
    | .error stop => throw stop

/-! ## Copying -/

/-- Copies input to output. -/
def copy (s : Streams) : Run Unit := Run.forEach s.input (Run.write s.output) Run.manyPieces

/-- Uses a file as input, or the input itself for a hyphen.  It is a failure that there is no such
file. -/
def withFile (s : Streams) (name file : Bytes) (use : Streams → Run Unit) : Run Nat := do
  if file == utf8 "-" then
    use s
    return 0
  match ← Run.open? (Utf8.decodeLossy file) with
  | some (source, feed) =>
    Run.feeding feed (use { s with input := source })
    return 0
  | none =>
    let found := (← get).machine.find (← Run.absolute (Utf8.decodeLossy file))
    complain s name (file ++ utf8 (if found = .directory then ": Is a directory"
      else ": No such file or directory"))
    return 1

/-- Uses each of some files, or the input itself if there are none. -/
def withFiles (s : Streams) (name : Bytes) (use : Streams → Run Unit) : List Bytes → Run Nat
  | [] => do
    use s
    return 0
  | files => do
    let statuses ← files.mapM fun file => withFile s name file use
    return statuses.foldl max 0

/-- Writes files one after the other. -/
def cat : Program := fun name arguments s => do
  let (options, files) := arguments.partition isOption
  match options.find? fun o => o != utf8 "-u" && o != utf8 "--" with
  | some option => refuseOption s name (option.getD 1 0)
  | none => withFiles s name copy files

/-! ## The front of the input -/

/-- Copies the first bytes. -/
def firstBytes (s : Streams) : Nat → Nat → Run Unit
  | 0, _ => throw .waiting
  | _, 0 => return
  | n + 1, count => do
    let piece ← Run.read s.input
    if piece.isEmpty then return
    Run.write s.output (piece.take count)
    firstBytes s n (count - piece.length)

/-- The bytes up to a number of line ends, and how many line ends are missing. -/
def upToLines : Nat → Bytes → Bytes × Nat
  | 0, _ => ([], 0)
  | n, [] => ([], n)
  | n + 1, b :: rest =>
    let (more, missing) := upToLines (if b == 0x0A then n else n + 1) rest
    (b :: more, missing)

/-- Copies the first lines. -/
def firstLines (s : Streams) : Nat → Nat → Run Unit
  | 0, _ => throw .waiting
  | _, 0 => return
  | n + 1, count => do
    let piece ← Run.read s.input
    if piece.isEmpty then return
    let (front, missing) := upToLines count piece
    Run.write s.output front
    firstLines s n missing

/-- How much `head` writes. -/
inductive Amount where
  /-- So many lines. -/
  | lines (count : Nat)
  /-- So many bytes. -/
  | bytes (count : Nat)

/-- Reads the arguments of `head`: the amount and the files. -/
def headArguments (amount : Amount) (files : List Bytes) :
    List Bytes → Except Bytes (Amount × List Bytes)
  | [] => .ok (amount, files)
  | argument :: rest =>
    let count (kind : String) (make : Nat → Amount) (text : Bytes) : Except Bytes Amount :=
      match Numeral.parse? 10 (letters text) with
      | some n => .ok (make n)
      | none => .error (utf8 ("invalid number of " ++ kind ++ ": ") ++ quote text)
    match letters argument, rest with
    | ['-', 'c'], value :: rest => do
      headArguments (← count "bytes" .bytes value) files rest
    | ['-', 'n'], value :: rest => do
      headArguments (← count "lines" .lines value) files rest
    | '-' :: 'c' :: value, rest => do
      headArguments (← count "bytes" .bytes (ofLetters value)) files rest
    | '-' :: 'n' :: value, rest => do
      headArguments (← count "lines" .lines (ofLetters value)) files rest
    | '-' :: d :: value, rest =>
      if d.isDigit then do
        headArguments (← count "lines" .lines (ofLetters (d :: value))) files rest
      else .error (utf8 "invalid option -- " ++ quote (ofLetters [d]))
    | _, rest => headArguments amount (files ++ [argument]) rest

/-- Writes the front of files. -/
def head : Program := fun name arguments s => do
  match headArguments (.lines 10) [] arguments with
  | .error text =>
    complain s name text
    return 1
  | .ok (amount, files) =>
    buffered s fun s =>
      withFiles s name (fun s => match amount with
        | .bytes count => firstBytes s Run.manyPieces count
        | .lines count => firstLines s Run.manyPieces count) files

/-! ## Exchanging characters -/

/-- The classes of characters that `tr` knows by name. -/
def classes : List (String × (Char → Bool)) :=
  [("upper", Char.isUpper), ("lower", Char.isLower), ("digit", Char.isDigit),
    ("alpha", Char.isAlpha), ("alnum", Char.isAlphanum),
    ("space", fun c => c == ' ' || ('\t' ≤ c && c ≤ '\r')),
    ("blank", fun c => c == ' ' || c == '\t'),
    ("cntrl", fun c => c < ' ' || c == '\x7f'),
    ("print", fun c => ' ' ≤ c && c ≤ '~'),
    ("graph", fun c => '!' ≤ c && c ≤ '~'),
    ("punct", fun c => '!' ≤ c && c ≤ '~' && !c.isAlphanum),
    ("xdigit", fun c => (Numeral.hexValue? c).isSome)]

/-- All characters that a byte can stand for. -/
def allLetters : List Char := (List.range 256).map Char.ofNat

/-- The class at the front of a set, and what is left after it. -/
def class? (text : List Char) : Option (List Char × List Char) :=
  match text with
  | '[' :: ':' :: rest =>
    let name := rest.takeWhile Char.isAlpha
    match rest.drop name.length, classes.lookup (String.ofList name) with
    | ':' :: ']' :: after, some test => some (allLetters.filter test, after)
    | _, _ => none
  | _ => none

/-- The character at the front of a set, and what is left after it. -/
def member : List Char → Option (Char × List Char)
  | [] => none
  | '\\' :: rest => some (Printf.resolve rest)
  | c :: rest => some (c, rest)

/-- The characters of a set, in which there can be classes, escapes and ranges. -/
def characters : Nat → List Char → List Char
  | 0, _ => []
  | n + 1, text =>
    match class? text with
    | some (found, rest) => found ++ characters n rest
    | none =>
      match member text with
      | none => []
      | some (first, rest) =>
        match rest with
        | '-' :: after =>
          match member after with
          | some (last, after) =>
            allLetters.filter (fun c => first ≤ c && c ≤ last) ++ characters n after
          | none => first :: characters n rest
        | _ => first :: characters n rest

/-- What `tr` does with a character. -/
structure Exchange where
  /-- What becomes of it, if it is kept. -/
  apply : Char → Option Char
  /-- Whether a repetition of it is dropped. -/
  squeezes : Char → Bool

/-- The exchange for the options and sets of `tr`. -/
def exchangeFor (options : List Char) (first second : List Char) : Exchange :=
  let complement := options.contains 'c' || options.contains 'C'
  let members := if complement then allLetters.filter (!first.contains ·) else first
  let target (c : Char) : Char :=
    match second.getLast? with
    | none => c
    | some last =>
      if complement then if first.contains c then c else last
      else match members.reverse.idxOf? c with
        | some i => second.getD (members.length - 1 - i) last
        | none => c
  if options.contains 'd' then
    ⟨fun c => if members.contains c then none else some c,
      fun c => options.contains 's' && second.contains c⟩
  else if second.isEmpty then ⟨some, fun c => options.contains 's' && members.contains c⟩
  else ⟨fun c => some (target c), fun c => options.contains 's' && second.contains c⟩

/-- Exchanges a piece, after the character written last, and gives the one written last. -/
def Exchange.piece (t : Exchange) (last : Option Char) (piece : List Char) :
    List Char × Option Char :=
  let (written, last) := piece.foldl
    (fun (written, last) c =>
      match t.apply c with
      | none => (written, last)
      | some c => if last == some c && t.squeezes c then (written, last) else (c :: written, some c))
    ([], last)
  (written.reverse, last)

/-- Exchanges all input. -/
def exchange (t : Exchange) (s : Streams) : Nat → Option Char → Run Unit
  | 0, _ => throw .waiting
  | n + 1, last => do
    let piece ← Run.read s.input
    if piece.isEmpty then return
    let (text, last) := t.piece last (letters piece)
    Run.write s.output (ofLetters text)
    exchange t s n last

/-- Exchanges, deletes and squeezes characters. -/
def tr : Program := fun name arguments s => buffered s fun s => do
  let options := (arguments.takeWhile isOption).flatMap fun o => (letters o).drop 1
  let sets := arguments.drop (arguments.takeWhile isOption).length
  match options.find? fun c => c ∉ ['c', 'C', 'd', 's', 't'] with
  | some c => refuseOption s name (UInt8.ofNat c.toNat)
  | none =>
    let expanded := sets.map fun set => characters (set.length + 1) (letters set)
    let alone := options.contains 'd' || options.contains 's'
    match expanded with
    | [] => refuse s name (utf8 "missing operand")
    | [first] =>
      if alone then
        exchange (exchangeFor options first []) s Run.manyPieces none
        return 0
      else
        complain s name (utf8 "missing operand after " ++ quote (sets.headD []))
        Run.write s.complaints
          (utf8 "Two strings must be given when translating.\nTry '" ++ name
            ++ utf8 " --help' for more information.\n")
        return 1
    | [first, second] =>
      exchange (exchangeFor options first second) s Run.manyPieces none
      return 0
    | _ => refuse s name (utf8 "extra operand " ++ quote (sets.getD 2 []))

/-! ## Time and terminal -/

/-- The milliseconds that a duration lasts: a decimal number and a unit. -/
def milliseconds? (text : List Char) : Option Nat :=
  let (number, unit) := match text.getLast? with
    | some 's' => (text.dropLast, 1000)
    | some 'm' => (text.dropLast, 60000)
    | some 'h' => (text.dropLast, 3600000)
    | some 'd' => (text.dropLast, 86400000)
    | _ => (text, 1000)
  let whole := number.takeWhile Numeral.isDigit
  let digits (ds : List Char) : Option Nat := if ds.isEmpty then some 0 else Numeral.parse? 10 ds
  match number.drop whole.length with
  | [] => if whole.isEmpty then none else (digits whole).map (· * unit)
  | '.' :: fraction =>
    if whole.isEmpty && fraction.isEmpty then none
    else do return (← digits whole) * unit + (← digits fraction) * unit / Nat.pow 10 fraction.length
  | _ => none

/-- Waits. -/
def sleep : Program := fun name arguments s => do
  match arguments.find? isOption with
  | some option => refuseOption s name (option.getD 1 0)
  | none =>
    if arguments.isEmpty then refuse s name (utf8 "missing operand")
    else match arguments.find? fun a => (milliseconds? (letters a)).isNone with
      | some a => refuse s name (utf8 "invalid time interval " ++ quote a)
      | none =>
        Run.pause ((arguments.filterMap fun a => milliseconds? (letters a)).foldl (· + ·) 0)
        return 0

/-- Changes the settings of the terminal, or writes its size. -/
def settings (s : Streams) (name : Bytes) : List String → Run Nat
  | [] => return 0
  | "size" :: rest => do
    let m := (← get).modes
    Run.say s.output (toString m.rows.toNat ++ " " ++ toString m.cols.toNat ++ "\n")
    settings s name rest
  | "rows" :: n :: rest => do
    modify fun w => { w with modes := { w.modes with rows := UInt16.ofNat (n.toNat?.getD 0) } }
    settings s name rest
  | "cols" :: n :: rest | "columns" :: n :: rest => do
    modify fun w => { w with modes := { w.modes with cols := UInt16.ofNat (n.toNat?.getD 0) } }
    settings s name rest
  | setting :: rest => do
    let m := (← get).modes
    let changed : Option Terminal.Modes := match setting with
      | "echo" => some { m with echoes := true }
      | "-echo" => some { m with echoes := false }
      | "opost" | "onlcr" => some { m with returns := true }
      | "-opost" | "-onlcr" => some { m with returns := false }
      | "sane" => some { m with echoes := true, returns := true }
      | _ => none
    match changed with
    | some m =>
      modify fun w => { w with modes := m }
      settings s name rest
    | none => refuse s name (utf8 ("invalid argument '" ++ setting ++ "'"))

/-- Sets the terminal. -/
def stty : Program := fun name arguments s => do
  if s.input == .terminal then
    settings s name (arguments.map fun a => String.ofList (Utf8.decodeLossy a))
  else
    complain s name (utf8 "'standard input': Inappropriate ioctl for device")
    return 1

/-! ## Echo -/

/-- Whether an argument of `echo` is made of options. -/
def isEchoOption (argument : Bytes) : Bool :=
  match letters argument with
  | '-' :: rest => !rest.isEmpty && rest.all fun c => c == 'n' || c == 'e' || c == 'E'
  | _ => false

/-- Writes its arguments.  Escapes are resolved if that is asked for. -/
def echo : Program := fun _ arguments s => do
  let options := (arguments.takeWhile isEchoOption).flatMap fun o => (letters o).drop 1
  let text := joined 0x20 (arguments.drop (arguments.takeWhile isEchoOption).length)
  let resolved := (options.filter (· != 'n')).getLast? == some 'e'
  let (text, whole) :=
    if resolved then
      let (text, whole) := Printf.unescape text.length (letters text)
      (ofLetters text, whole)
    else (text, true)
  Run.write s.output (text ++ if whole && !options.contains 'n' then utf8 "\n" else [])
  return 0

/-- The programs by name. -/
def all : List (String × Program) :=
  [("cat", cat), ("echo", echo), ("false", fun _ _ _ => return 1), ("head", head),
    ("sleep", sleep), ("stty", stty), ("tr", tr), ("true", fun _ _ _ => return 0)]

end Program

end SharedTerminal.Shell
