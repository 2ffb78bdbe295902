import SharedTerminal.Text.Utf8

/-!
# Tasks and their status

A command that runs in a session is a task.  Its status moves from `new` through `running` to one
of three final values, and every move is announced as a `Change`.
-/

namespace SharedTerminal

namespace Task

/-- The status of a task. -/
inductive Status where
  /-- The task was accepted. -/
  | new
  /-- The command runs. -/
  | running
  /-- The command ended with success. -/
  | done
  /-- The command ended without success, or could not be started. -/
  | failed
  /-- The command was interrupted. -/
  | killed
deriving DecidableEq, Repr, Inhabited

namespace Status

/-- Every status, in the order in which errors list them. -/
def all : List Status := [new, running, done, failed, killed]

/-- The name of a status on the wire. -/
def name : Status → String
  | new => "NEW"
  | running => "RUNNING"
  | done => "DONE"
  | failed => "FAILED"
  | killed => "KILLED"

/-- The status with a name. -/
def ofName? (s : String) : Option Status := all.find? (·.name == s)

/-- The names of all statuses. -/
def names : List String := all.map name

@[simp] theorem ofName?_name (s : Status) : ofName? s.name = some s := by
  cases s <;> decide

/-- Whether a status is the last of its task. -/
def isFinal : Status → Bool
  | done | failed | killed => true
  | new | running => false

/-- The line that tells a reader of the output, and no one else, how a command ended. -/
def completionMarker (s : Status) : String := "% # Finished with status: " ++ s.name ++ "\r\n"

end Status

/-- The prompt: a chunk of output that says that the session takes a command. -/
def readyMarker : String := "% "

/-- The announcement that a task moved from one status to another. -/
structure Change where
  /-- The name of the task. -/
  task : String
  /-- The status before. -/
  before : Status
  /-- The status after. -/
  after : Status
  /-- The context of the session in which the task runs. -/
  context : String
deriving DecidableEq, Repr, Inhabited

/-- Whether the task has ended. -/
def Change.isFinal (c : Change) : Bool := c.after.isFinal

end Task

end SharedTerminal
