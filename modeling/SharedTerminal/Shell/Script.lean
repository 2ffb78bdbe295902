import SharedTerminal.Shell.Arithmetic
import SharedTerminal.Shell.Condition
import SharedTerminal.Shell.Program
import SharedTerminal.Shell.Reader

/-!
# Running command lines

What the shell does with the tree of a line: it expands words, leads streams where redirections say,
carries out its own commands and starts programs.  The commands of a pipeline run one after the
other; what the first writes is the input of the next.

Every step down the tree, and every turn of a loop, uses up some of a number.  A command that uses
it up is one that still runs.
-/

namespace SharedTerminal.Shell

open Printf (letters ofLetters)

namespace Script

/-! ## Variables and fields -/

/-- The number of the shell's process. -/
def processId : Nat := 1000

/-- The text of a number. -/
def number (n : Nat) : Bytes := utf8 (toString n)

/-- Complains as the shell. -/
def complain (s : Streams) (text : String) : Run Unit := do
  Run.write s.complaints ((← get).arguments.headD [] ++ utf8 (": 1: " ++ text ++ "\n"))

/-- The value of a variable, if it has one. -/
def valueOf (w : World) (name : List Char) : Option Bytes :=
  match name with
  | ['?'] => some (number w.status)
  | ['$'] => some (number processId)
  | ['#'] => some (number (w.arguments.length - 1))
  | ['@'] | ['*'] => some (Program.joined 0x20 w.arguments.tail)
  | ['-'] | ['!'] => some []
  | _ =>
    match Numeral.parse? 10 name with
    | some i => w.arguments[i]?
    | none => w.bindings.lookup name

/-- Assigns to a variable. -/
def assign (name : List Char) (value : Bytes) : Run Unit :=
  modify fun w =>
    let others := w.bindings.filter fun v => v.1 != name
    { w with bindings := others ++ [(name, value)] }

/-- Fields that words are expanded into: those that are complete, and the one that grows. -/
structure Fields where
  /-- The complete fields. -/
  complete : List Bytes
  /-- The field that grows, if there is one. -/
  growing : Option Bytes

namespace Fields

/-- No fields. -/
def empty : Fields := ⟨[], none⟩

/-- Lets the last field grow. -/
def add (f : Fields) (bytes : Bytes) : Fields := { f with growing := some (f.growing.getD [] ++ bytes) }

/-- Completes the last field. -/
def close (f : Fields) : Fields :=
  match f.growing with
  | none => f
  | some field => ⟨f.complete ++ [field], none⟩

/-- All fields. -/
def all (f : Fields) : List Bytes := f.close.complete

/-- Adds bytes that are split into fields at blanks. -/
def split (f : Fields) (bytes : Bytes) : Fields :=
  bytes.foldl
    (fun f b => if b == 0x20 || b == 0x09 || b == 0x0A then f.close else f.add [b]) f

/-- Adds a value.  One that stands in quotes is not split. -/
def put (f : Fields) (isQuoted : Bool) (value : Bytes) : Fields :=
  if isQuoted then f.add value else f.split value

/-- Adds each of several values as a field of its own. -/
def putEach (f : Fields) : List Bytes → Fields
  | [] => f
  | [last] => f.add last
  | first :: rest => ((f.add first).close).putEach rest

end Fields

/-- Bytes without the line feeds at their end. -/
def withoutLineEnds (bytes : Bytes) : Bytes := (bytes.reverse.dropWhile (· == 0x0A)).reverse

/-! ## Commands of the shell -/

/-- The status that an argument spells. -/
def status? (argument : Bytes) : Option Nat := Numeral.parse? 10 (letters argument)

/-- The signal with a name or a number. -/
def signal? (text : List Char) : Option Nat :=
  let names := [("HUP", 1), ("INT", 2), ("QUIT", 3), ("KILL", 9), ("USR1", 10), ("SEGV", 11),
    ("USR2", 12), ("PIPE", 13), ("ALRM", 14), ("TERM", 15), ("ABRT", 6), ("CHLD", 17),
    ("CONT", 18), ("STOP", 19), ("TSTP", 20), ("URG", 23), ("WINCH", 28)]
  match Numeral.parse? 10 text with
  | some n => if n < 65 then some n else none
  | none => names.lookup (String.ofList text)

/-- What a signal does to the shell that gets it: it ends it, unless the signal asks for nothing. -/
def deliver (signal : Nat) : Run Nat :=
  if [0, 17, 18, 20, 23, 28].contains signal then return 0
  else if signal == 19 then throw .waiting
  else throw (.signalled signal)

/-- Sends a signal. -/
def kill (s : Streams) (arguments : List Bytes) : Run Nat := do
  let (signal, targets) := match arguments.map letters with
    | ['-', 's'] :: name :: rest => (signal? name, rest)
    | ('-' :: name) :: rest => (signal? name, rest)
    | rest => (some 15, rest)
  match signal, targets with
  | some signal, target :: _ =>
    if target == (toString processId).toList then deliver signal
    else
      complain s "kill: No such process"
      return 1
  | _, _ =>
    complain s "kill: Illegal option"
    return 2

/-- Writes arguments with their escapes resolved. -/
def echo (s : Streams) (arguments : List Bytes) : Run Nat := do
  let (silent, rest) := match arguments with
    | first :: rest => if first == utf8 "-n" then (true, rest) else (false, arguments)
    | [] => (false, [])
  let text := Program.joined 0x20 rest
  let (text, whole) := Printf.unescape text.length (letters text)
  Run.write s.output (ofLetters text ++ if whole && !silent then utf8 "\n" else [])
  return 0

/-- Writes a format with its arguments. -/
def printf (s : Streams) (arguments : List Bytes) : Run Nat := do
  match (if arguments.head? == some (utf8 "--") then arguments.tail else arguments) with
  | [] =>
    complain s "printf: usage: printf format [arg ...]"
    return 2
  | pattern :: rest =>
    let (text, complaints) := Printf.format pattern rest
    for text in complaints do complain s ("printf: " ++ text)
    Run.write s.output text
    return if complaints.isEmpty then 0 else 1

/-- Finds out whether a condition holds. -/
def test (s : Streams) (name : String) (words : List Bytes) : Run Nat := do
  match Condition.evaluate (← get) s words with
  | .ok truth => return if truth then 0 else 1
  | .error text =>
    complain s (name ++ ": " ++ text)
    return 2

/-- Changes the directory that relative paths start from. -/
def changeDirectory (s : Streams) (target : Bytes) : Run Nat := do
  let path := Utf8.decodeLossy target
  let absolute ← Run.absolute path
  if (← get).machine.find absolute = .directory then
    let parts := (Machine.parts absolute).foldl
      (fun here part => if part == ['.', '.'] then here.dropLast else here ++ [part]) []
    let directory := if parts.isEmpty then ['/'] else parts.flatMap fun part => '/' :: part
    modify fun w => { w with directory := directory }
    assign "PWD".toList (Utf8.encode directory)
    return 0
  else
    complain s ("cd: can't cd to " ++ String.ofList path)
    return 2

/-- Reads a line, and tells whether it has an end. -/
def readLine (source : Source) : Nat → Run (Bytes × Bool)
  | 0 => throw .waiting
  | n + 1 => do
    let piece ← Run.read source
    if piece.isEmpty then return ([], false)
    let front := piece.takeWhile (· != 0x0A)
    match piece.drop front.length with
    | [] =>
      let (more, whole) ← readLine source n
      return (front ++ more, whole)
    | _ :: rest =>
      Run.unread source rest
      return (front, true)

/-- A line without the backslashes that protect the next byte. -/
def withoutBackslashes : Bytes → Bytes
  | 0x5C :: b :: rest => b :: withoutBackslashes rest
  | b :: rest => b :: withoutBackslashes rest
  | [] => []

/-- Whether a byte is a blank. -/
def isBlank (b : UInt8) : Bool := b == 0x20 || b == 0x09 || b == 0x0A

/-- Gives the fields of a line to variables; the last variable gets all that is left. -/
def distribute (line : Bytes) : List (List Char) → Run Unit
  | [] => return
  | [last] => assign last ((line.dropWhile isBlank).reverse.dropWhile isBlank).reverse
  | first :: rest => do
    let line := line.dropWhile isBlank
    let field := line.takeWhile fun b => !isBlank b
    assign first field
    distribute (line.drop field.length) rest

/-- Reads a line into variables. -/
def read (s : Streams) (arguments : List Bytes) : Run Nat := do
  let raw := arguments.contains (utf8 "-r")
  let names := (arguments.filter fun a => !Program.isOption a).map letters
  if names.isEmpty then
    complain s "read: arg count"
    return 2
  let (line, whole) ← readLine s.input Run.manyPieces
  distribute (if raw then line else withoutBackslashes line) names
  return if whole then 0 else 1

/-- Assigns what arguments say, and takes note of nothing else. -/
def assignAll (arguments : List Bytes) : Run Nat := do
  for argument in arguments do
    match Reader.assignment? (letters argument) with
    | some (name, value) => assign name (ofLetters value)
    | none => pure ()
  return 0

/-- Leaves or goes on with loops. -/
def jump (make : Nat → Stop) (arguments : List Bytes) : Run Nat :=
  throw (make (((arguments.head?.bind status?).getD 1) - 1))

/-- Exits, with the status of the last command if none is given. -/
def exit (s : Streams) (arguments : List Bytes) : Run Nat := do
  match arguments with
  | [] => throw (.exit (← get).status)
  | argument :: _ =>
    match status? argument with
    | some n => throw (.exit (n % 256))
    | none =>
      complain s ("exit: Illegal number: " ++ String.ofList (Utf8.decodeLossy argument))
      throw (.exit 2)

/-- The commands of the shell that need nothing but their arguments. -/
def builtin? (name : String) : Option (Streams → List Bytes → Run Nat) :=
  match name with
  | ":" | "true" | "wait" | "trap" | "umask" => some fun _ _ => return 0
  | "false" => some fun _ _ => return 1
  | "echo" => some echo
  | "printf" => some printf
  | "test" => some fun s words => test s "test" words
  | "[" => some fun s words =>
    if words.getLast? == some (utf8 "]") then test s "[" words.dropLast
    else do
      complain s "[: missing ]"
      return 2
  | "exit" | "return" => some exit
  | "break" => some fun _ words => jump .leave words
  | "continue" => some fun _ words => jump .again words
  | "cd" => some fun s words => do
    match words with
    | target :: _ => changeDirectory s target
    | [] =>
      match valueOf (← get) "HOME".toList with
      | some home => changeDirectory s home
      | none => return 0
  | "pwd" => some fun s _ => do
    Run.write s.output (Utf8.encode (← get).directory ++ utf8 "\n")
    return 0
  | "read" => some read
  | "kill" => some kill
  | "export" | "readonly" | "local" => some fun _ words => assignAll words
  | "unset" => some fun _ words => do
    modify fun w =>
      { w with bindings := w.bindings.filter fun v => !(words.map letters).contains v.1 }
    return 0
  | "shift" => some fun _ words => do
    let count := (words.head?.bind status?).getD 1
    modify fun w => { w with arguments := w.arguments.take 1 ++ w.arguments.drop (1 + count) }
    return 0
  | "set" => some fun _ words => do
    if words.head? == some (utf8 "--") then
      modify fun w => { w with arguments := w.arguments.take 1 ++ words.tail }
    return 0
  | _ => none

/-- The last part of a path. -/
def baseName (path : List Char) : String :=
  String.ofList (path.reverse.takeWhile (· != '/')).reverse

/-- The names of the shell itself. -/
def shellNames : List String := ["sh", "dash"]

/-- Lets something run with variables, arguments and directory of its own. -/
def apart {α : Type} (r : Run α) : Run (Except Stop α) := do
  let outer ← get
  let result ← Run.attempt r
  modify fun w =>
    { w with
      bindings := outer.bindings
      arguments := outer.arguments
      directory := outer.directory }
  return result

/-- The status with which something in a scope of its own ends. -/
def settle (result : Except Stop Nat) : Run Nat :=
  match result with
  | .ok status | .error (.exit status) => return status
  | .error (.leave _) | .error (.again _) => return 0
  | .error stop => throw stop

/-- Leads a descriptor of the streams to a sink. -/
def lead (s : Streams) (descriptor : Nat) (sink : Sink) : Streams :=
  if descriptor == 1 then { s with output := sink }
  else if descriptor == 2 then { s with complaints := sink }
  else s

/-- The sink that a descriptor leads to. -/
def sinkOf (s : Streams) (descriptor : List Char) : Sink :=
  if descriptor == ['1'] then s.output
  else if descriptor == ['2'] then s.complaints
  else .nowhere

/-! ## Running -/

mutual

/-- Expands a part of a word. -/
def part : Nat → Streams → Part → Fields → Run Fields
  | 0, _, _, _ => throw .waiting
  | n + 1, s, p, fields => do
    match p with
    | .text chars _ => return fields.add (Utf8.encode chars)
    | .variable name isQuoted =>
      if isQuoted && name == ['@'] then return fields.putEach (← get).arguments.tail
      return fields.put isQuoted ((valueOf (← get) name).getD [])
    | .length name => return fields.add (number ((valueOf (← get) name).getD []).length)
    | .substitute name kind orEmpty instead isQuoted =>
      let value := (valueOf (← get) name).filter fun v => !(orEmpty && v.isEmpty)
      match kind, value with
      | .alternative, some _ => return fields.put isQuoted (← single n s instead)
      | .alternative, none => return fields
      | _, some value => return fields.put isQuoted value
      | .fallback, none => return fields.put isQuoted (← single n s instead)
      | .assigned, none =>
        let value ← single n s instead
        assign name value
        return fields.put isQuoted value
    | .output script isQuoted =>
      let (bytes, result) ← Run.catching fun sink => do
        settle (← apart (command n { s with output := sink } script))
      match result with
      | .ok status =>
        modify fun w => { w with status := status }
        return fields.put isQuoted (withoutLineEnds bytes)
      | .error stop => throw stop
    | .value expression =>
      let text := Utf8.decodeLossy (← single n s expression)
      let w ← get
      let valueOf (name : List Char) : Int :=
        ((valueOf w name).bind Condition.integer?).getD 0
      match Arithmetic.evaluate valueOf text with
      | .ok i => return fields.add (utf8 (toString i))
      | .error fault =>
        complain s (fault.message (String.ofList text))
        throw (.exit 2)

/-- Expands the parts of a word into fields. -/
def parts : Nat → Streams → Word → Fields → Run Fields
  | 0, _, _, _ => throw .waiting
  | _, _, [], fields => return fields
  | n + 1, s, p :: rest, fields => do
    parts n s rest (← part n s p fields)

/-- Expands a word into one field. -/
def single : Nat → Streams → Word → Run Bytes
  | 0, _, _ => throw .waiting
  | _, _, [] => return []
  | n + 1, s, p :: rest => do
    let unsplit : Part := match p with
      | .variable name _ => .variable name (name != ['@'])
      | .output script _ => .output script true
      | .substitute name kind orEmpty instead _ => .substitute name kind orEmpty instead true
      | p => p
    let first ← part n s unsplit .empty
    let more ← single n s rest
    return Program.joined 0x20 first.all ++ more

/-- Expands words into fields. -/
def fields : Nat → Streams → List Word → Run (List Bytes)
  | 0, _, _ => throw .waiting
  | _, _, [] => return []
  | n + 1, s, first :: rest => do
    let found ← parts n s first .empty
    return found.all ++ (← fields n s rest)

/-- Runs something with redirected streams.  A redirection that leads nowhere is a failure. -/
def redirect : Nat → Streams → List Redirection → (Streams → Run Nat) → Run Nat
  | 0, _, _, _ => throw .waiting
  | _, s, [], run => run s
  | n + 1, s, .mk descriptor direction target :: rest, run => do
    let path := Utf8.decodeLossy (← single n s target)
    match direction with
    | .input =>
      match ← Run.open? path with
      | some (source, feed) =>
        Run.feeding feed (redirect n { s with input := source } rest run)
      | none =>
        complain s ("cannot open " ++ String.ofList path ++ ": No such file")
        return 2
    | .here => Run.feeding .empty (redirect n { s with input := .feed } rest run)
    | .copy =>
      let descriptor := descriptor.getD 1
      if descriptor == 0 then redirect n s rest run
      else redirect n (lead s descriptor (sinkOf s path)) rest run
    | .output | .append =>
      match ← Run.create? path (direction = .append) with
      | some sink => redirect n (lead s (descriptor.getD 1) sink) rest run
      | none =>
        complain s ("cannot create " ++ String.ofList path ++ ": Directory nonexistent")
        return 2

/-- Assigns to variables. -/
def assignments : Nat → Streams → List (List Char × Word) → Run Unit
  | 0, _, _ => throw .waiting
  | _, _, [] => return
  | n + 1, s, (name, value) :: rest => do
    assign name (← single n s value)
    assignments n s rest

/-- Runs a script in a shell of its own. -/
def shell : Nat → Streams → Bytes → List Bytes → Run Nat
  | 0, _, _, _ => throw .waiting
  | n + 1, s, name, given => do
    match given with
    | option :: line :: rest =>
      if option != utf8 "-c" then throw .waiting
      let body : Run Nat := do
        modify fun w => { w with arguments := if rest.isEmpty then [name] else rest, status := 0 }
        match Reader.script (Utf8.decodeLossy line) with
        | .ok tree => command n s tree
        | .error text =>
          complain s ("Syntax error: " ++ text)
          return 2
      settle (← apart body)
    | _ => throw .waiting

/-- Runs the command that fields spell. -/
def invoke : Nat → Streams → List Bytes → Run Nat
  | 0, _, _ => throw .waiting
  | _, _, [] => return 0
  | n + 1, s, name :: given => do
    let path := Utf8.decodeLossy name
    let text := String.ofList path
    match builtin? text with
    | some run => run s given
    | none =>
      if text == "eval" then
        match Reader.script (Utf8.decodeLossy (Program.joined 0x20 given)) with
        | .ok tree => command n s tree
        | .error complaint =>
          complain s ("Syntax error: " ++ complaint)
          throw (.exit 2)
      else if text == "exec" && !given.isEmpty then throw (.exit (← invoke n s given))
      else if text == "command" then invoke n s given
      else
        let machine := (← get).machine
        let absolute ← Run.absolute path
        let found : Stored :=
          if path.isEmpty then .directory
          else if path.contains '/' then machine.find absolute
          else if machine.hasProgram path then .program
          else .absent
        match found with
        | .program =>
          if shellNames.contains (baseName path) then
            match ← Run.attempt (shell n s name given) with
            | .error (.signalled signal) => return 128 + signal
            | result => settle result
          else
            match Program.all.lookup (baseName path) with
            | some program => program name given s
            | none =>
              complain s (text ++ ": not found")
              return 127
        | .absent =>
          complain s (text ++ ": not found")
          return 127
        | _ =>
          complain s (text ++ ": Permission denied")
          return 126

/-- Runs the commands of a pipeline. -/
def stages : Nat → Streams → List Command → Run Nat
  | 0, _, _ => throw .waiting
  | _, _, [] => return 0
  | n + 1, s, [last] => do settle (← apart (command n s last))
  | n + 1, s, first :: rest => do
    let (bytes, result) ← Run.catching fun sink => do
      settle (← apart (command n { s with output := sink } first))
    let feed : Feed := match result with
      | .error .waiting => ⟨bytes, .awaited⟩
      | _ => ⟨bytes, .ended⟩
    let status ← Run.feeding feed (stages n { s with input := .feed } rest)
    match result with
    | .ok _ => return status
    | .error stop => throw stop

/-- Runs a command for each of some fields. -/
def each : Nat → Streams → List Char → List Bytes → Command → Nat → Run Nat
  | 0, _, _, _, _, _ => throw .waiting
  | _, _, _, [], _, status => return status
  | n + 1, s, name, first :: rest, body, _ => do
    assign name first
    match ← Run.attempt (command n s body) with
    | .ok status => each n s name rest body status
    | .error (.again 0) => each n s name rest body 0
    | .error (.leave 0) => return 0
    | .error (.again (levels + 1)) => throw (.again levels)
    | .error (.leave (levels + 1)) => throw (.leave levels)
    | .error stop => throw stop

/-- Runs a command and gives its status. -/
def command : Nat → Streams → Command → Run Nat
  | 0, _, _ => throw .waiting
  | n + 1, s, tree => do
    let status ← perform n s tree
    modify fun w => { w with status := status }
    return status

/-- Does what a command asks for. -/
def perform : Nat → Streams → Command → Run Nat
  | 0, _, _ => throw .waiting
  | n + 1, s, tree => do
    match tree with
    | .nothing => return 0
    | .simple settings words targets =>
      let found ← fields n s words
      redirect n s targets fun s => do
        if found.isEmpty then
          modify fun w => { w with status := 0 }
          assignments n s settings
          return (← get).status
        else if settings.isEmpty then invoke n s found
        else
          let outer := (← get).bindings
          assignments n s settings
          let result ← Run.attempt (invoke n s found)
          modify fun w => { w with bindings := outer }
          match result with
          | .ok status => return status
          | .error stop => throw stop
    | .pipeline negated commands =>
      let status ← match commands with
        | [only] => command n s only
        | _ => stages n s commands
      return if negated then (if status == 0 then 1 else 0) else status
    | .both first second =>
      let status ← command n s first
      if status == 0 then command n s second else return status
    | .either first second =>
      let status ← command n s first
      if status == 0 then return status else command n s second
    | .sequence first second =>
      let _ ← command n s first
      command n s second
    | .redirected body targets => redirect n s targets fun s => command n s body
    | .subshell body => do settle (← apart (command n s body))
    | .branch condition body otherwise =>
      let status ← command n s condition
      if status == 0 then command n s body
      else match otherwise with
        | .nothing => return 0
        | otherwise => command n s otherwise
    | .loop whileSuccess condition body =>
      let status ← command n s condition
      if (status == 0) != whileSuccess then return 0
      match ← Run.attempt (command n s body) with
      | .ok _ | .error (.again 0) => perform n s (.loop whileSuccess condition body)
      | .error (.leave 0) => return 0
      | .error (.again (levels + 1)) => throw (.again levels)
      | .error (.leave (levels + 1)) => throw (.leave levels)
      | .error stop => throw stop
    | .each name words body =>
      let found ← match words with
        | some words => fields n s words
        | none => do pure (← get).arguments.tail
      each n s name found body 0

end

end Script

/-! ## From the outside -/

/-- What is seen of a program from outside. -/
structure Outcome where
  /-- What the program has written on the terminal. -/
  screen : Bytes
  /-- How the terminal is set. -/
  modes : Terminal.Modes
  /-- Whether the program succeeded, once it has ended. -/
  ending : Option Bool

/-- More steps than a command line is expected to take. -/
def manySteps : Nat := 200000

/-- What comes of a program with its arguments, started on a terminal on which something was
typed, if one waits for so many milliseconds. -/
def outcome (machine : Machine) (modes : Terminal.Modes) (typed : List Bytes) (patience : Nat)
    (name : String) (arguments : List String) : Outcome :=
  let world : World :=
    { typed := typed
      modes := modes
      screen := []
      feed := .empty
      basins := []
      files := []
      machine := machine
      directory := ['/']
      bindings := [("PATH".toList, utf8 "/usr/bin:/bin")]
      arguments := []
      status := 0
      patience := patience }
  let base := Script.baseName name.toList
  let run : Run Nat :=
    if Script.shellNames.contains base then
      Script.shell manySteps .terminal (utf8 name) (arguments.map utf8)
    else match Program.all.lookup base with
      | some program => program (utf8 name) (arguments.map utf8) .terminal
      | none => return 127
  let (result, world) := run.run world
  ⟨world.screen, world.modes, match result with
    | .ok status | .error (.exit status) => some (status == 0)
    | .error .waiting => none
    | .error _ => some false⟩

end SharedTerminal.Shell
