import SharedTerminal.Engine
import SharedTerminal.Session.Error
import SharedTerminal.Text.Blank

/-!
# The prompt

The engine that people meet.  At the prompt one edits a line, and every key is echoed; the end of
the line starts the line as a task.  While a task runs, what is typed goes to the task, up to the
first interrupt, which ends it; what follows the interrupt in the same chunk is dropped.  When the
task has ended there is a prompt again.

The prompt knows tasks by their numbers only.  Whether a line can be started as a task is told by a
function of both, and the end of a task comes as a notice with the number of the task.
-/

namespace SharedTerminal

namespace Prompt

/-- The task that runs. -/
structure Running where
  /-- The number of the task. -/
  task : Nat
  /-- Whether it was interrupted. -/
  interrupted : Bool
deriving DecidableEq, Repr

/-- What a byte means while a line is edited. -/
inductive Key where
  /-- The end of the line. -/
  | enter
  /-- The end of all that was typed. -/
  | interrupt
  /-- The removal of the last byte. -/
  | erase
  /-- One more byte of the line. -/
  | other
deriving DecidableEq, Repr

/-- The meaning of a byte: carriage return and line feed enter, Ctrl-C interrupts, backspace and
delete erase. -/
def Key.ofByte (b : UInt8) : Key :=
  if b == 0x0D || b == 0x0A then .enter
  else if b == 0x03 then .interrupt
  else if b == 0x08 || b == 0x7F then .erase
  else .other

/-- What a prompt tells its session. -/
inductive Report where
  /-- That it takes a command. -/
  | ready
  /-- What was typed. -/
  | echo (bytes : Bytes)
  /-- Why a line could not be started as a task. -/
  | refusal (task : Nat) (reason : Bytes)
  /-- That a task moved from one status to another. -/
  | status (task : Nat) (before after : Task.Status)
deriving DecidableEq, Repr

/-- A report as the session gets it. -/
def Report.event : Report → Engine.Event
  | ready => .ready
  | echo bytes => .output bytes
  | refusal _ reason => .output reason
  | status task before after => .status task before after

/-- What a prompt does. -/
inductive Act where
  /-- It tells its session something. -/
  | tell (report : Report)
  /-- It starts a line as a task. -/
  | launch (task : Nat) (line : String)
  /-- It passes bytes on to the task. -/
  | type (bytes : Bytes)
  /-- It ends the task. -/
  | kill
  /-- It gives the terminal of the task another size. -/
  | resize (cols rows : UInt16)
deriving DecidableEq, Repr

/-- The columns of a terminal, unless it is given another size. -/
def defaultCols : UInt16 := 80

/-- The rows of a terminal, unless it is given another size. -/
def defaultRows : UInt16 := 24

/-- Shows an echo, if there is one. -/
def flush (echo : Bytes) : List Act := if echo.isEmpty then [] else [.tell (.echo echo)]

/-- The bytes before the first interrupt, and whether there is one. -/
def untilInterrupt (bytes : Bytes) : Bytes × Bool :=
  (bytes.takeWhile fun b => Key.ofByte b != .interrupt,
    bytes.any fun b => Key.ofByte b == .interrupt)

/-- The text of an edited line: its bytes as text, without blanks at the ends. -/
def lineText (line : Bytes) : String := String.ofList (Blank.trim (Utf8.decodeLossy line))

end Prompt

/-- The state of a prompt. -/
structure Prompt where
  /-- The line as edited so far. -/
  line : Bytes
  /-- The columns of the terminal. -/
  cols : UInt16
  /-- The rows of the terminal. -/
  rows : UInt16
  /-- The task that runs. -/
  running : Option Prompt.Running
  /-- The number of the next task. -/
  next : Nat
  /-- Whether the engine has stopped. -/
  stopped : Bool
deriving DecidableEq, Repr

namespace Prompt

/-- A prompt before anything was typed, and what it shows first. -/
def start (first : Nat) : Prompt × List Act :=
  (⟨[], defaultCols, defaultRows, none, first, false⟩, [.tell .ready])

/-- What comes of starting a line as the task with a number: nothing, or why it cannot be started. -/
abbrev Launcher : Type := Nat → String → Except Session.Error Unit

/-- Starts a line as a task.  A line that cannot be started fails on the spot, and the reason is
its output. -/
def launch (starts : Launcher) (p : Prompt) (line : String) : Prompt × List Act :=
  let task := p.next
  let announced := Act.tell (.status task .new .running)
  match starts task line with
  | .ok () =>
    ({ p with running := some ⟨task, false⟩, next := task + 1 }, [announced, .launch task line])
  | .error e =>
    ({ p with next := task + 1 },
      [announced, .tell (.refusal task (utf8 (e.message ++ "\r\n"))),
        .tell (.status task .running .failed), .tell .ready])

/-- Ends the line, after the echo that is still to be shown. -/
def enter (starts : Launcher) (p : Prompt) (echo : Bytes) : Prompt × List Act :=
  let shown := Act.tell (.echo (echo ++ utf8 "\r\n"))
  let line := lineText p.line
  let p := { p with line := [] }
  if line.isEmpty then (p, [shown, .tell .ready])
  else
    let (p, acts) := p.launch starts line
    (p, shown :: acts)

/-- Takes a key at the prompt.  The echo collects what is to be shown next. -/
def press (starts : Launcher) (p : Prompt) (echo : Bytes) (b : UInt8) :
    Prompt × Bytes × List Act :=
  match Key.ofByte b with
  | .enter =>
    let (p, acts) := p.enter starts echo
    (p, [], acts)
  | .interrupt =>
    ({ p with line := [] }, [], [.tell (.echo (echo ++ utf8 "^C\r\n")), .tell .ready])
  | .erase =>
    if p.line.isEmpty then (p, echo, [])
    else ({ p with line := p.line.dropLast }, echo ++ utf8 "\x08 \x08", [])
  | .other => ({ p with line := p.line ++ [b] }, echo ++ [b], [])

/-- Passes bytes on to the task that runs. -/
def forward (p : Prompt) (task : Running) (bytes : Bytes) : Prompt × List Act :=
  let (before, interrupted) := untilInterrupt bytes
  ({ p with running := some { task with interrupted := task.interrupted || interrupted } },
    (if before.isEmpty then [] else [.type before]) ++ (if interrupted then [.kill] else []))

/-- Takes the bytes of one chunk.  The echo is shown where a line or the chunk ends. -/
def type (starts : Launcher) (p : Prompt) (echo : Bytes) : Bytes → Prompt × List Act
  | [] => (p, flush echo)
  | b :: rest =>
    match p.running with
    | some task =>
      let (p, acts) := p.forward task (b :: rest)
      (p, acts ++ flush echo)
    | none =>
      let (p, echo, acts) := p.press starts echo b
      let (p, more) := p.type starts echo rest
      (p, acts ++ more)

/-- Takes a command.  A stopped engine takes none. -/
def react (starts : Launcher) (p : Prompt) (command : Engine.Command) : Prompt × List Act :=
  if p.stopped then (p, [])
  else match command with
    | .input bytes => p.type starts [] bytes
    | .resize cols rows =>
      ({ p with cols := cols, rows := rows },
        if p.running.isSome then [.resize cols rows] else [])
    | .shutdown =>
      ({ p with running := none, stopped := true }, if p.running.isSome then [.kill] else [])

/-- Whether a command can be given.  A stopped engine can only be told once more to stop. -/
def accepts (p : Prompt) : Engine.Command → Except Session.Error Unit
  | .shutdown => .ok ()
  | .input _ | .resize _ _ =>
    if p.stopped then .error (.engine "engine stopped") else .ok ()

/-- The status with which a task ends. -/
def finalStatus (task : Running) (success : Bool) : Task.Status :=
  if task.interrupted then .killed else if success then .done else .failed

/-- Takes notice of the end of a task.  A notice of another task than the one that runs is
stale. -/
def finish (p : Prompt) (task : Nat) (success : Bool) : Prompt × List Act :=
  match p.running with
  | none => (p, [])
  | some running =>
    if running.task = task then
      ({ p with running := none },
        [.tell (.status task .running (finalStatus running success)), .tell .ready])
    else (p, [])

example : lineText (utf8 " \t ls\u00a0") = "ls" := by decide +kernel

end Prompt

end SharedTerminal
