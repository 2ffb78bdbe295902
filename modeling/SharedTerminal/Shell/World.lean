import SharedTerminal.Machine
import SharedTerminal.Terminal

/-!
# What a program works on

A program reads from one place and writes to two.  The world around it holds what was typed, what
it has written, its variables and files, and how long one is willing to wait for it.

A program that would have to wait, for a key or for a time, stops where it is: what it has done so
far is in the world, and it is run again from the start when more was typed.  This is sound because
a program is a function of the world that it is started in.
-/

namespace SharedTerminal.Shell

/-- Where a program reads from. -/
inductive Source where
  /-- What was typed on the terminal. -/
  | terminal
  /-- The feed of the world. -/
  | feed
deriving DecidableEq, Repr

/-- Where a program writes to. -/
inductive Sink where
  /-- The terminal. -/
  | terminal
  /-- Nowhere. -/
  | nowhere
  /-- A basin of the world, by its place. -/
  | basin (place : Nat)
  /-- The end of a file. -/
  | file (path : List Char)
deriving DecidableEq, Repr

/-- What comes after the bytes of a feed. -/
inductive Sequel where
  /-- The end. -/
  | ended
  /-- Bytes that are still to come. -/
  | awaited
  /-- Zeros for ever. -/
  | zeros
deriving DecidableEq, Repr

/-- What is read from a pipe or a file. -/
structure Feed where
  /-- The bytes. -/
  bytes : Bytes
  /-- What comes after them. -/
  sequel : Sequel
deriving DecidableEq, Repr

/-- A feed without bytes. -/
def Feed.empty : Feed := ⟨[], .ended⟩

/-- Where a program reads from and writes to. -/
structure Streams where
  /-- The input. -/
  input : Source
  /-- The output. -/
  output : Sink
  /-- Where complaints go. -/
  complaints : Sink
deriving DecidableEq, Repr

/-- The streams of a program that is started on a terminal. -/
def Streams.terminal : Streams := ⟨.terminal, .terminal, .terminal⟩

/-- What programs share. -/
structure World where
  /-- The parts that were typed and not read yet. -/
  typed : List Bytes
  /-- How the terminal is set. -/
  modes : Terminal.Modes
  /-- What was written on the terminal. -/
  screen : Bytes
  /-- What is read from a pipe or a file. -/
  feed : Feed
  /-- What was written into pipes. -/
  basins : List Bytes
  /-- The files that were written. -/
  files : List (List Char × Bytes)
  /-- The machine. -/
  machine : Machine
  /-- The directory that relative paths start from. -/
  directory : List Char
  /-- The variables of the shell. -/
  bindings : List (List Char × Bytes)
  /-- The name of the shell and its arguments. -/
  arguments : List Bytes
  /-- The exit status of the last command. -/
  status : Nat
  /-- How many milliseconds one is willing to wait. -/
  patience : Nat

/-- Why a program goes no further. -/
inductive Stop where
  /-- It waits. -/
  | waiting
  /-- It exits with a status. -/
  | exit (status : Nat)
  /-- A signal ended it. -/
  | signalled (signal : Nat)
  /-- It leaves loops. -/
  | leave (levels : Nat)
  /-- It goes on with a loop. -/
  | again (levels : Nat)
deriving DecidableEq, Repr

/-- What a program does: it changes the world, and gives something unless it stops. -/
abbrev Run : Type → Type := ExceptT Stop (StateM World)

namespace Run

/-- Does something and tells how it ended. -/
def attempt {α : Type} (r : Run α) : Run (Except Stop α) :=
  ExceptT.mk do return .ok (← r.run)

/-- Writes bytes. -/
def write (sink : Sink) (bytes : Bytes) : Run Unit :=
  modify fun w =>
    match sink with
    | .terminal => { w with screen := w.screen ++ w.modes.written bytes }
    | .nowhere => w
    | .basin place => { w with basins := w.basins.modify place (· ++ bytes) }
    | .file path =>
      { w with
        files := w.files.map fun f => if f.1 = path then (path, f.2 ++ bytes) else f }

/-- Reads what there is to read.  Nothing is read at the end of the input only. -/
def read (source : Source) : Run Bytes := do
  let w ← get
  match source with
  | .terminal =>
    match w.typed with
    | [] => throw .waiting
    | part :: rest =>
      set { w with typed := rest }
      return part
  | .feed =>
    if w.feed.bytes.isEmpty then
      match w.feed.sequel with
      | .ended => return []
      | .awaited => throw .waiting
      | .zeros => return List.replicate 4096 0
    else
      set { w with feed := { w.feed with bytes := [] } }
      return w.feed.bytes

/-- Puts bytes back that were read and are not used. -/
def unread (source : Source) (bytes : Bytes) : Run Unit :=
  if bytes.isEmpty then pure ()
  else modify fun w =>
    match source with
    | .terminal => { w with typed := bytes :: w.typed }
    | .feed => { w with feed := { w.feed with bytes := bytes ++ w.feed.bytes } }

/-- Reads everything and gives it to a function piece by piece.  A reader of endless input never
ends. -/
def forEach (source : Source) (use : Bytes → Run Unit) : Nat → Run Unit
  | 0 => throw .waiting
  | n + 1 => do
    let piece ← read source
    if piece.isEmpty then return
    use piece
    forEach source use n

/-- More pieces than a program is expected to read. -/
def manyPieces : Nat := 100000

/-- Lets time pass. -/
def pause (milliseconds : Nat) : Run Unit := do
  let w ← get
  if milliseconds ≤ w.patience then set { w with patience := w.patience - milliseconds }
  else throw .waiting

/-- Lets something read from a feed of its own. -/
def feeding {α : Type} (feed : Feed) (r : Run α) : Run α := do
  let outer := (← get).feed
  modify fun w => { w with feed := feed }
  let result ← attempt r
  modify fun w => { w with feed := outer }
  match result with
  | .ok a => return a
  | .error stop => throw stop

/-- Lets something write into a basin, and gives what it wrote and how it ended. -/
def catching {α : Type} (r : Sink → Run α) : Run (Bytes × Except Stop α) := do
  let place := (← get).basins.length
  modify fun w => { w with basins := w.basins ++ [[]] }
  let result ← attempt (r (.basin place))
  let caught := (← get).basins.getD place []
  modify fun w => { w with basins := w.basins.take place }
  return (caught, result)

/-- Writes a text. -/
def say (sink : Sink) (text : String) : Run Unit := write sink (utf8 text)

/-- An absolute path, from the directory that relative paths start from. -/
def absolute (path : List Char) : Run (List Char) := do
  if Machine.isAbsolute path then return path
  else return (← get).directory ++ ['/'] ++ path

/-- What a path is read as, if it can be read. -/
def open? (path : List Char) : Run (Option (Source × Feed)) := do
  let w ← get
  let path ← absolute path
  match w.files.lookup path with
  | some bytes => return some (.feed, ⟨bytes, .ended⟩)
  | none =>
    if path == "/dev/tty".toList then return some (.terminal, .empty)
    if path == "/dev/zero".toList then return some (.feed, ⟨[], .zeros⟩)
    match w.machine.find path with
    | .file bytes => return some (.feed, ⟨bytes, .ended⟩)
    | _ => return none

/-- What a path leads to when it is written, if it can be written. -/
def create? (path : List Char) (keep : Bool) : Run (Option Sink) := do
  let w ← get
  let path ← absolute path
  if path == "/dev/null".toList then return some .nowhere
  else if path == "/dev/tty".toList then return some .terminal
  else
    let folder := ((path.reverse.dropWhile (· != '/')).drop 1).reverse
    if w.machine.find path = .directory || w.machine.find (folder ++ ['/']) != .directory then
      return none
    let old := if keep then (w.files.lookup path).getD [] else []
    let others := w.files.filter fun f => f.1 != path
    set { w with files := others ++ [(path, old)] }
    return some (.file path)

end Run

end SharedTerminal.Shell
