import SharedTerminal.Task

/-!
# The life of a session

A session lives while someone can still use it: while a driver is attached or a command runs.
`Lifecycle.apply` takes one occurrence and gives the next state with the effects that the session
has to carry out, in order.

A session ends the first time that, after any occurrence other than the arrival of a driver, no
command runs and no driver is attached; or when it is told to.  From then on nothing changes.
-/

namespace SharedTerminal.Session

/-- Whether a session has a driver. -/
inductive Presence where
  /-- No driver has come yet. -/
  | never
  /-- A driver is there. -/
  | attached
  /-- The last driver has left. -/
  | departed
deriving DecidableEq, Repr, Inhabited

/-- Where a session stands, as seen from outside. -/
inductive Phase where
  /-- No command runs and no driver is attached. -/
  | idle
  /-- A command runs. -/
  | commandRunning
  /-- A driver is attached and no command runs. -/
  | connectedNoCommand
  /-- The session has ended. -/
  | destroyed
deriving DecidableEq, Repr

/-- What can happen to a session. -/
inductive Occurrence where
  /-- A connection asks to drive. -/
  | driverAttached
  /-- The driver leaves. -/
  | driverDetached
  /-- An observer leaves. -/
  | observerDetached
  /-- A listener leaves. -/
  | listenerDetached
  /-- The engine cannot be started for the first driver. -/
  | engineFailed
  /-- The session is told to end. -/
  | shutdown
  /-- The engine reports that a task reached a status. -/
  | statusChanged (status : Task.Status)
deriving DecidableEq, Repr

/-- What a session has to do after an occurrence. -/
inductive Effect where
  /-- Start the engine. -/
  | startEngine
  /-- Let the connection that asked to drive observe instead. -/
  | demote
  /-- Write the completion marker of a status to the observers. -/
  | appendCompletion (status : Task.Status)
  /-- Tell the listeners of the change. -/
  | notifyListeners
  /-- End the session. -/
  | destroy
deriving DecidableEq, Repr

/-- The state that decides how long a session lives. -/
structure Lifecycle where
  /-- Whether a command runs. -/
  active : Bool
  /-- Whether there is a driver. -/
  driver : Presence
  /-- Whether the session has ended. -/
  destroyed : Bool
deriving DecidableEq, Repr, Inhabited

namespace Lifecycle

/-- The state of a new session. -/
def initial : Lifecycle := ⟨false, .never, false⟩

/-- The phase of a state. -/
def phase (l : Lifecycle) : Phase :=
  if l.destroyed then .destroyed
  else if l.active then .commandRunning
  else if l.driver = .attached then .connectedNoCommand
  else .idle

/-- Whether nobody can use the session any more. -/
def isAbandoned (l : Lifecycle) : Bool := !l.active && l.driver != .attached

/-- Ends the session if it is abandoned; `effects` come first. -/
def settle (l : Lifecycle) (effects : List Effect) : Lifecycle × List Effect :=
  if l.isAbandoned then (⟨l.active, l.driver, true⟩, effects ++ [.destroy]) else (l, effects)

/-- What the arrival of a driver asks for. -/
def welcome : Presence → List Effect
  | .never => [.startEngine]
  | .attached => [.demote]
  | .departed => []

/-- The presence after the driver has left. -/
def leave : Presence → Presence
  | .attached => .departed
  | p => p

/-- What a status asks for. -/
def report (status : Task.Status) : List Effect :=
  if status.isFinal then [.appendCompletion status, .notifyListeners] else [.notifyListeners]

/-- The state after an occurrence, and what is to be done. -/
def apply (l : Lifecycle) (o : Occurrence) : Lifecycle × List Effect :=
  if l.destroyed then (l, [])
  else match o with
    | .driverAttached => ({ l with driver := .attached }, welcome l.driver)
    | .driverDetached => settle { l with driver := leave l.driver } []
    | .observerDetached | .listenerDetached | .engineFailed => settle l []
    | .shutdown => ({ l with destroyed := true }, [.destroy])
    | .statusChanged status => settle { l with active := !status.isFinal } (report status)

@[simp] theorem apply_of_destroyed {l : Lifecycle} (h : l.destroyed = true) (o : Occurrence) :
    l.apply o = (l, []) := by
  simp [apply, h]

end Lifecycle

end SharedTerminal.Session
