import SharedTerminal.Engine

/-!
# What is told of an engine

An engine may cut the output of a task into any chunks.  A digest tells its events so that the cuts
inside a task do not show: everything that a task writes is told in one piece, just before the final
status of the task.  What the engine writes while no task runs is told as it comes.
-/

namespace SharedTerminal.Engine

/-- What is told of an engine. -/
inductive Report where
  /-- A chunk that was written while no task ran. -/
  | output (bytes : Bytes)
  /-- All that a task has written, if that is anything. -/
  | work (bytes : Bytes)
  /-- A task moved from one status to another. -/
  | status (task : Nat) (before after : Task.Status)
deriving DecidableEq, Repr

namespace Report

/-- All that a task has written, unless it is nothing. -/
def ofWork (written : Bytes) : List Report := if written.isEmpty then [] else [work written]

/-- Hears an event.  What is kept back is the output of the task that runs, if one does. -/
def hear (kept : Option Bytes) : Event → Option Bytes × List Report
  | .output bytes =>
    match kept with
    | some written => (some (written ++ bytes), [])
    | none => (none, [output bytes])
  | .status task before after =>
    if after.isFinal then (none, ofWork (kept.getD []) ++ [status task before after])
    else (some [], [status task before after])

/-- Hears several events. -/
def hearAll (kept : Option Bytes) (events : List Event) : Option Bytes × List Report :=
  events.foldl
    (fun (kept, told) event =>
      let (kept, more) := hear kept event
      (kept, told ++ more))
    (kept, [])

end Report

end SharedTerminal.Engine
