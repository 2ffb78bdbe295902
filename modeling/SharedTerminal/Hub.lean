import SharedTerminal.Session
import SharedTerminal.Session.LogFile

/-!
# The hub

The hub holds the sessions of a daemon: every one that was ever created, numbered in the order of
creation, and the register, which maps a context to the session that lives in it.  The first
request for a context creates its session; a session that ends takes itself off the register, and
an entry that was given to a newer session stays.

The hub also stands for the world around the sessions: it knows the engines in the order in which
they were started, and the log files.
-/

namespace SharedTerminal

/-- What the sessions of a hub have in common. -/
structure Hub.Settings where
  /-- What comes of starting an engine: the first events of the engine, or why it fails. -/
  start : Except Session.Error (List Engine.Event)
  /-- The capacity of output logs, if they are kept. -/
  logCapacity : Option Nat

/-- Sessions, register, engines and log files. -/
structure Hub where
  /-- Every session that was created. -/
  sessions : List Session
  /-- The number of the session of each context. -/
  entries : List (String × Nat)
  /-- The number of the session that started each engine. -/
  processes : List Nat
  /-- The contents of each log file. -/
  files : List (String × Bytes)
deriving DecidableEq, Repr

namespace Hub

open Session (Channel Error Attachment)

/-- A hub without sessions. -/
def empty : Hub := ⟨[], [], [], []⟩

/-! ## Sessions by number -/

/-- The session with a number. -/
def session (hub : Hub) (n : Nat) : Session := hub.sessions.getD n (.fresh "")

/-- Takes the entry of a context off the register if it is that of a session. -/
def forget (hub : Hub) (context : String) (n : Nat) : Hub :=
  { hub with entries := hub.entries.filter (· ≠ (context, n)) }

/-- Puts the next state of a session in place.  A session that says farewell leaves the register. -/
def put (hub : Hub) (n : Nat) (s : Session) : Hub :=
  let next := { hub with sessions := hub.sessions.set n s }
  if (hub.session n).farewells < s.farewells then next.forget s.context n else next

/-- Changes a session. -/
def modify (hub : Hub) (n : Nat) (f : Session → Session) : Hub := hub.put n (f (hub.session n))

/-- Lets a session do something and gives the outcome. -/
def run {α : Type} (hub : Hub) (n : Nat) (f : Session → Session × α) : Hub × α :=
  let (s, a) := f (hub.session n)
  (hub.put n s, a)

/-- Creates a session outside the register. -/
def create (hub : Hub) (context : String) : Hub × Nat :=
  ({ hub with sessions := hub.sessions ++ [.fresh context] }, hub.sessions.length)

/-! ## The register -/

/-- The session that the register has for a context, if it lives. -/
def find? (hub : Hub) (context : String) : Option Nat :=
  (hub.entries.lookup context).filter fun n => !(hub.session n).isDestroyed

/-- Whether a live session is registered for a context. -/
def contains (hub : Hub) (context : String) : Bool := (hub.find? context).isSome

/-- The session of a context, which is created if there is none that lives. -/
def findOrCreate (hub : Hub) (context : String) : Hub × Nat :=
  match hub.find? context with
  | some n => (hub, n)
  | none =>
    let (next, n) := hub.create context
    ({ next with entries := next.entries.filter (·.1 ≠ context) ++ [(context, n)] }, n)

/-- Takes a session off the register; the flag tells whether it was on it under the context. -/
def remove (hub : Hub) (context : String) (n : Nat) : Hub × Bool :=
  (hub.forget context n, hub.entries.contains (context, n))

/-- How many sessions are registered. -/
def size (hub : Hub) : Nat := hub.entries.length

/-- The contexts of the registered sessions, in the order of their code points. -/
def contexts (hub : Hub) : List String := (hub.entries.map (·.1)).mergeSort (· ≤ ·)

/-- Ends every registered session and empties the register. -/
def shutdown (hub : Hub) : Hub :=
  let last := hub.entries.foldl (fun hub entry => hub.modify entry.2 Session.shutdown) hub
  { last with entries := [] }

/-! ## Engines and log files -/

/-- Makes sure that the log file of a context exists. -/
def touch (hub : Hub) (context : String) : Hub :=
  let name := Session.LogFile.name context
  if (hub.files.lookup name).isSome then hub else { hub with files := hub.files ++ [(name, [])] }

/-- Appends to the log file of a context. -/
def appendLog (hub : Hub) (context : String) (bytes : Bytes) : Hub :=
  let name := Session.LogFile.name context
  { hub with
    files := hub.files.map fun file => if file.1 = name then (name, file.2 ++ bytes) else file }

/-- Lets the log writer of a session catch up. -/
def flushLog (hub : Hub) (n : Nat) : Hub :=
  let (s, bytes) := (hub.session n).flushLog
  (hub.put n s).appendLog s.context bytes

/-- Lets every log writer catch up. -/
def flushLogs (hub : Hub) : Hub := (List.range hub.sessions.length).foldl flushLog hub

/-- How many bytes the log files hold. -/
def loggedBytes (hub : Hub) : Nat := (hub.files.flatMap (·.2)).length

/-- What attaching a driver would find when it starts the engine. -/
def Settings.startup (settings : Settings) : Session.Startup :=
  ⟨settings.start.map fun _ => (), settings.logCapacity⟩

/-- Takes note of an engine that a session started, and of its first events. -/
def enroll (hub : Hub) (settings : Settings) (n : Nat) : Hub :=
  let hub := { hub with processes := hub.processes ++ [n] }
  let hub := if settings.logCapacity.isSome then hub.touch (hub.session n).context else hub
  match settings.start with
  | .ok events => events.foldl (fun hub event => hub.modify n (·.handle event)) hub
  | .error _ => hub

/-- Attaches a channel that asks to drive a session. -/
def attachDriver (hub : Hub) (settings : Settings) (n : Nat) (c : Channel) :
    Hub × Except Error Attachment :=
  let s := hub.session n
  let (next, outcome) := s.attachDriver c settings.startup
  let hub := hub.put n next
  if s.process.isNone && next.process.isSome then (hub.enroll settings n, outcome)
  else (hub, outcome)

/-- The session that started an engine, if the engine still runs. -/
def running? (hub : Hub) (p : Nat) : Option Nat :=
  hub.processes[p]?.filter fun n => (hub.session n).process.any (·.running)

/-- Lets an engine produce events; the flag tells whether it runs. -/
def emit (hub : Hub) (p : Nat) (events : List Engine.Event) : Hub × Bool :=
  match hub.running? p with
  | none => (hub, false)
  | some n => (events.foldl (fun hub event => hub.modify n (·.handle event)) hub, true)

/-- Lets an engine take its commands, and tells its context, if it runs. -/
def takeCommands (hub : Hub) (p : Nat) : Hub × Option (String × List Engine.Command) :=
  match hub.running? p with
  | none => (hub, none)
  | some n =>
    let (hub, commands) := hub.run n Session.takeCommands
    (hub, commands.map fun cs => ((hub.session n).context, cs))

/-- Lets an engine go away; the flag tells whether it ran. -/
def dropProcess (hub : Hub) (p : Nat) : Hub × Bool :=
  match hub.running? p with
  | none => (hub, false)
  | some n => hub.run n Session.dropProcess

end Hub

end SharedTerminal
