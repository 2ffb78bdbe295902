import SharedTerminal.Client.Link
import SharedTerminal.CommandLine

/-!
# The command line of the client

The client runs one command in a session: it waits for the session to be ready, sends the command,
prints output until the command has a final status, and exits with a code that tells the status.
The first task that is announced as new after that is taken to be the command.  Output travels on
another connection than status, so output that comes soon after the final status is still printed.

A client that only watches prints output and changes of status until the session ends.
-/

namespace SharedTerminal.Client

open CommandLine (Opt Stop)

/-- What the command line says. -/
structure Command where
  /-- How to connect. -/
  settings : Settings
  /-- The command to run. -/
  line : String
deriving DecidableEq, Repr

namespace Command

/-- The address of the daemon, unless another is given. -/
def defaultUrl : String := "ws://127.0.0.1:8080"

/-- The greatest time limit, in seconds. -/
def greatestLimit : Nat := UInt64.size - 1

/-- The options. -/
def known : List Opt :=
  [CommandLine.text "url" none, CommandLine.text "context" (some 'c'), CommandLine.flag "text" none,
    CommandLine.flag "read-only" none, CommandLine.number greatestLimit "timeout" none,
    CommandLine.flag "verbose" (some 'v'), CommandLine.help, CommandLine.version]

/-- Reads the arguments.  What follows the options is the command, and only one who watches can do
without. -/
def parse (args : List String) : Except Stop Command := do
  let (given, words, _) ← CommandLine.read known args
  let readOnly := CommandLine.has given "read-only"
  if words.isEmpty && !readOnly then throw .refused
  let timeout := match CommandLine.numberOf? greatestLimit given "timeout" with
    | some seconds => Duration.ofSeconds seconds
    | none => Settings.defaultTimeout
  return {
    settings := {
      base := (given.lookup "url").getD defaultUrl
      context := (given.lookup "context").getD ""
      mode := if CommandLine.has given "text" then .text else .binary
      readOnly := readOnly
      readyTimeout := timeout }
    line := " ".intercalate words }

/-- What the command line says without arguments. -/
def empty : Command :=
  ⟨⟨defaultUrl, "", .binary, false, Settings.defaultTimeout⟩, ""⟩

/-- The name and version of the program. -/
def versionText : String := "termbridge-client 0.1.0\n"

/-- The help of the program. -/
def helpText : String :=
  "TermBridge client - submits commands to a shared session and follows its status

Usage: termbridge-client [OPTIONS] [COMMAND]...

Arguments:
  [COMMAND]...  Command line to run

Options:
      --url <URL>          Daemon URL [default: ws://127.0.0.1:8080]
  -c, --context <CONTEXT>  Session context [default: ]
      --text               Request text frames instead of binary frames
      --read-only          Observe the session without submitting a command
      --timeout <TIMEOUT>  Seconds to wait for the session to become ready [default: 10]
  -v, --verbose            Enable verbose logging
  -h, --help               Print help
  -V, --version            Print version
"

/-- The answer to a question, by the name of its option. -/
def answer (question : String) : String :=
  if question == CommandLine.version.long then versionText else helpText

end Command

/-! ## Following a command -/

/-- What is known of the command that was sent. -/
structure Pursuit where
  /-- The task that is taken to be the command. -/
  task : Option String
  /-- The final status of the command. -/
  final : Option Task.Status
deriving DecidableEq, Repr

namespace Pursuit

/-- Nothing is known. -/
def begun : Pursuit := ⟨none, none⟩

/-- Takes note of a change.  After the final status nothing more is noted. -/
def note (p : Pursuit) (change : Task.Change) : Pursuit :=
  if p.final.isSome then p
  else
    let task := match p.task with
      | some task => some task
      | none => if change.before = .new then some change.task else none
    ⟨task, if task = some change.task && change.isFinal then some change.after else none⟩

end Pursuit

/-- The exit code that tells a final status. -/
def exitCode : Task.Status → Nat
  | .done => 0
  | .killed => 130
  | _ => 1

/-- A change of status as one who watches sees it. -/
def notice (change : Task.Change) : String :=
  "[" ++ change.context ++ "] task " ++ change.task ++ ": " ++ change.before.name ++ " -> "
    ++ change.after.name

/-! ## Running -/

/-- How the client ended. -/
structure Exit where
  /-- The exit code. -/
  code : Nat
  /-- What went wrong. -/
  complaint : Option String
deriving DecidableEq, Repr

/-- The line that tells what went wrong: the first of the complaint. -/
def Exit.errorLine? (e : Exit) : Option String :=
  e.complaint.map fun c => "Error: " ++ String.ofList (c.toList.takeWhile (· != '\n'))

/-- An exit with a complaint. -/
def Exit.failed (complaint : String) : Exit := ⟨1, some complaint⟩

/-- The exit after the command: with its status, if it had a final one. -/
def Exit.ofFinal : Option Task.Status → Exit
  | some status => ⟨exitCode status, none⟩
  | none => .failed "Session closed before the command finished"

/-- What the client is doing. -/
inductive Stage where
  /-- It waits for the session to be ready. -/
  | opening
  /-- It waits for the command to end. -/
  | following (pursuit : Pursuit)
  /-- It waits for late output until a time, in milliseconds. -/
  | lingering (final : Option Task.Status) (limit : Nat)
  /-- It watches. -/
  | watching
  /-- It has ended. -/
  | exited (exit : Exit)
deriving DecidableEq, Repr

/-- The client as a program. -/
structure Run where
  /-- What the command line said. -/
  command : Command
  /-- What the client is doing. -/
  stage : Stage
  /-- What it printed. -/
  printed : Bytes
  /-- The changes that it noticed while watching. -/
  notices : List String
deriving DecidableEq, Repr

namespace Run

/-- How many milliseconds after the last output the client still waits for more. -/
def grace : Nat := 200

/-- Prints output. -/
def print (r : Run) (chunks : List Bytes) : Run := { r with printed := r.printed ++ chunks.flatten }

/-- What the client sends or does next. -/
inductive Move where
  /-- It waits. -/
  | wait
  /-- It sends a frame on the command connection. -/
  | send (f : Frame)
  /-- It closes both connections. -/
  | close
  /-- It goes away without closing them. -/
  | leave
deriving DecidableEq, Repr

/-- Goes on, at a time, with what came of opening the link and with what came on it. -/
def advance (r : Run) (opening : Option (Except Error Unit)) (link : Link) (now : Nat) :
    Run × Link × Move :=
  match r.stage with
  | .opening =>
    match opening with
    | none => (r, link, .wait)
    | some (.error _) =>
      ({ r with stage := .exited (.failed ("Failed to connect to " ++ r.command.settings.base)) },
        link, .wait)
    | some (.ok ()) =>
      if link.settings.readOnly then ({ r with stage := .watching }, link, .wait)
      else match link.ask (.command r.command.line) with
        | .ok f => ({ r with stage := .following .begun }, link, .send f)
        | .error _ => ({ r with stage := .exited (.failed "Failed to submit command") }, link, .leave)
  | .following pursuit =>
    let (link, chunks, changes) := link.take
    let pursuit := changes.foldl Pursuit.note pursuit
    let r := r.print chunks
    if pursuit.final.isSome || link.command ≠ .up || link.status ≠ .up then
      ({ r with stage := .lingering pursuit.final (now + grace) }, link, .wait)
    else ({ r with stage := .following pursuit }, link, .wait)
  | .lingering final limit =>
    let (link, chunks, _) := link.take
    let r := r.print chunks
    let limit := if chunks.isEmpty then limit else now + grace
    if link.command ≠ .up || limit ≤ now then
      ({ r with stage := .exited (.ofFinal final) }, link, .close)
    else ({ r with stage := .lingering final limit }, link, .wait)
  | .watching =>
    let (link, chunks, changes) := link.take
    let r := { r.print chunks with notices := r.notices ++ changes.map notice }
    if link.command ≠ .up then ({ r with stage := .exited ⟨0, none⟩ }, link, .close)
    else (r, link, .wait)
  | .exited _ => (r, link, .wait)

/-- A run that ends before it does anything. -/
def ended (command : Command) (exit : Exit) (printed : String) : Run :=
  ⟨command, .exited exit, utf8 printed, []⟩

/-- Begins: reads the arguments, answers questions, and checks the settings. -/
def begin (args : List String) : Run :=
  match Command.parse args with
  | .error .refused => ended Command.empty ⟨2, none⟩ ""
  | .error (.answered question) => ended Command.empty ⟨0, none⟩ (Command.answer question)
  | .ok command =>
    match command.settings.check with
    | .error e => ended command (.failed e.message) ""
    | .ok _ => ⟨command, .opening, [], []⟩

/-- The exit of a client that has ended. -/
def exit? (r : Run) : Option Exit :=
  match r.stage with
  | .exited exit => some exit
  | _ => none

end Run

end SharedTerminal.Client
