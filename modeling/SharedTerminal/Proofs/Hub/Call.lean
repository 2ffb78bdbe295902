import SharedTerminal.Proofs.Hub.Register
import Mathlib.Data.List.Basic

/-!
# Calls

Whoever uses a hub does so for one context, and knows a session by the context that it was given
out for and by its place among the sessions of that context.  The numbers that a hub gives to its
sessions and engines are its own affair.  So a `Call` names sessions and engines by a `Handle`, and
`serve` looks up whom it means.  `serveAll` serves one call after the other and keeps the replies.

Every call but those on the register comes down to operations on one session: `act_cases` says
which.
-/

namespace SharedTerminal.Hub

open Session (Answer)

/-- A session or an engine as it is known in its context: by its place among those of the context,
in the order in which they came. -/
structure Handle where
  /-- The context. -/
  context : String
  /-- The place. -/
  place : Nat
deriving DecidableEq, Repr

/-- What a hub can be asked for. -/
inductive Call where
  /-- The session of a context, which is created if there is none that lives. -/
  | findOrCreate (context : String)
  /-- The session that lives in a context, if any. -/
  | find (context : String)
  /-- Whether a session lives in a context. -/
  | contains (context : String)
  /-- To take a session off the register under a context. -/
  | remove (context : String) (who : Handle)
  /-- To do something to a session. -/
  | on (who : Handle) (op : Session.Operation)
  /-- To take events from an engine. -/
  | emit (engine : Handle) (events : List Engine.Event)
  /-- To let an engine take its commands. -/
  | takeCommands (engine : Handle)
  /-- To let an engine go away. -/
  | dropProcess (engine : Handle)

/-- The context that a call is for. -/
def Call.context : Call → String
  | findOrCreate context | find context | contains context | remove context _ => context
  | on who _ => who.context
  | emit engine _ | takeCommands engine | dropProcess engine => engine.context

/-- What a call replies. -/
inductive Reply where
  /-- A session. -/
  | session (who : Handle)
  /-- A session, if there is one. -/
  | found (who : Option Handle)
  /-- A flag. -/
  | flag (b : Bool)
  /-- What the session answers. -/
  | answer (a : Answer)
  /-- What an engine found in its queue, with the context of its session. -/
  | commands (found : Option (String × List Engine.Command))
  /-- Nobody has that handle. -/
  | unknown

/-! ## Handles -/

/-- The contexts of the sessions, in the order of creation. -/
def homes (hub : Hub) : List String := hub.sessions.map (·.context)

/-- The handle of the session with a number. -/
def handle (hub : Hub) (n : Nat) : Handle :=
  let context := (hub.session n).context
  ⟨context, hub.homes.countBefore context n⟩

/-- The number of the session with a handle. -/
def number? (hub : Hub) (who : Handle) : Option Nat :=
  (hub.homes.idxsOf who.context)[who.place]?

/-- The number of the engine with a handle. -/
def engine? (hub : Hub) (engine : Handle) : Option Nat :=
  ((hub.processes.map fun n => (hub.session n).context).idxsOf engine.context)[engine.place]?

/-! ## Serving -/

/-- Does something to a session in its world: engines start as the settings say, and the log writer
puts what it takes into its file. -/
def act (hub : Hub) (settings : Settings) (n : Nat) : Session.Operation → Hub × Answer
  | .attachDriver c _ => (hub.attachDriver settings n c).map id .attached
  | .flushLog => (hub.flushLog n, .logged (hub.session n).flushLog.2)
  | op => hub.run n (·.perform op)

/-- Most operations on a session concern nothing but the session and the register. -/
lemma act_cases (op : Session.Operation) :
    (∃ c startup, op = .attachDriver c startup) ∨ op = .flushLog ∨
      ∀ (hub : Hub) (settings : Settings) (n : Nat),
        hub.act settings n op = hub.run n (·.perform op) := by
  cases op with
  | attachDriver c startup => exact Or.inl ⟨c, startup, rfl⟩
  | flushLog => exact Or.inr (Or.inl rfl)
  | _ => exact Or.inr (Or.inr fun _ _ _ => rfl)

/-- Serves a call, with the settings for each context. -/
def serve (settings : String → Settings) (hub : Hub) : Call → Hub × Reply
  | .findOrCreate context =>
    let (next, n) := hub.findOrCreate context
    (next, .session (next.handle n))
  | .find context => (hub, .found ((hub.find? context).map hub.handle))
  | .contains context => (hub, .flag (hub.contains context))
  | .remove context who =>
    match hub.number? who with
    | some n => (hub.remove context n).map id .flag
    | none => (hub, .flag false)
  | .on who op =>
    match hub.number? who with
    | some n => (hub.act (settings who.context) n op).map id .answer
    | none => (hub, .unknown)
  | .emit engine events =>
    match hub.engine? engine with
    | some p => (hub.emit p events).map id .flag
    | none => (hub, .unknown)
  | .takeCommands engine =>
    match hub.engine? engine with
    | some p => (hub.takeCommands p).map id .commands
    | none => (hub, .unknown)
  | .dropProcess engine =>
    match hub.engine? engine with
    | some p => (hub.dropProcess p).map id .flag
    | none => (hub, .unknown)

/-- Serves calls from the first to the last, and gives each with its reply. -/
def serveAll (settings : String → Settings) (hub : Hub) : List Call → Hub × List (Call × Reply)
  | [] => (hub, [])
  | call :: calls =>
    let (next, reply) := hub.serve settings call
    let (last, replies) := next.serveAll settings calls
    (last, (call, reply) :: replies)

end SharedTerminal.Hub
