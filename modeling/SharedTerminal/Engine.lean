import SharedTerminal.Task

/-!
# Engines

An engine runs the commands of one session.  The session sends it `Command`s, and it answers with
a single stream of `Event`s, in which output and changes of status keep the order in which they
happened.  Whenever an engine can take a command it writes the ready marker as an output chunk of
its own.
-/

namespace SharedTerminal.Engine

/-- What a session asks of its engine. -/
inductive Command where
  /-- To take bytes as typed by the driver. -/
  | input (bytes : Bytes)
  /-- To give the terminal another size, in columns and rows. -/
  | resize (cols rows : UInt16)
  /-- To stop, and to end the command that runs. -/
  | shutdown
deriving DecidableEq, Repr

/-- What an engine tells its session. -/
inductive Event where
  /-- A chunk of output. -/
  | output (bytes : Bytes)
  /-- A task of the engine, by its number, moved from one status to another. -/
  | status (task : Nat) (before after : Task.Status)
deriving DecidableEq, Repr

/-- The chunk that says that the engine takes a command. -/
def Event.ready : Event := output (utf8 Task.readyMarker)

end SharedTerminal.Engine
