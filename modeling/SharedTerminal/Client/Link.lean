import SharedTerminal.Client.Settings
import SharedTerminal.Envelope
import SharedTerminal.Frame

/-!
# The client's end of a session

A link holds two connections to one context.  From the command connection it takes output, and the
ready markers out of it; from the status connection it takes the changes of status.  It can be used
as soon as a ready marker came, or at once if it only watches.
-/

namespace SharedTerminal.Client

/-- How a connection stands, as the client knows it. -/
inductive Line where
  /-- Both ends use it. -/
  | up
  /-- The daemon has closed it. -/
  | closed
  /-- It ended without being closed. -/
  | lost
  /-- The client has closed it. -/
  | shut
deriving DecidableEq, Repr

/-- Why nothing can be sent on a line. -/
def Line.obstacle? : Line → Option String
  | up => none
  | closed => some "WebSocket protocol error: Sending after closing is not allowed"
  | lost | shut => some "Trying to work with closed connection"

/-- Both connections, and what came on them. -/
structure Link where
  /-- The settings that the link was opened with. -/
  settings : Settings
  /-- The command connection. -/
  command : Line
  /-- The status connection. -/
  status : Line
  /-- Whether a ready marker came. -/
  ready : Bool
  /-- The output that was not taken yet. -/
  output : List Bytes
  /-- The changes of status that were not taken yet. -/
  changes : List Task.Change
deriving DecidableEq, Repr

namespace Link

/-- A link whose connections were just opened. -/
def opened (settings : Settings) : Link := ⟨settings, .up, .up, false, [], []⟩

/-! ## Hearing -/

/-- Takes output.  A ready marker is not output, but only if it comes alone. -/
def takeOutput (l : Link) (data : Bytes) : Link :=
  if data = utf8 Task.readyMarker then { l with ready := true }
  else { l with output := l.output ++ [data] }

/-- Hears a frame on the command connection. -/
def hearCommand (l : Link) (f : Frame) : Link :=
  if l.command ≠ .up then l
  else match f with
    | .text s => l.takeOutput (utf8 s)
    | .binary data => l.takeOutput data
    | .close _ => { l with command := .closed }
    | .ping _ | .pong _ => l

/-- Hears a frame on the status connection.  What is no change of status is ignored. -/
def hearStatus (l : Link) (f : Frame) : Link :=
  if l.status ≠ .up then l
  else match f with
    | .text s =>
      match Task.Change.parse s.toList with
      | .ok change => { l with changes := l.changes ++ [change] }
      | .error _ => l
    | .close _ => { l with status := .closed }
    | .binary _ | .ping _ | .pong _ => l

/-- Loses the command connection. -/
def loseCommand (l : Link) : Link := if l.command = .up then { l with command := .lost } else l

/-- Loses the status connection. -/
def loseStatus (l : Link) : Link := if l.status = .up then { l with status := .lost } else l

/-- Closes both connections. -/
def close (l : Link) : Link := { l with command := .shut, status := .shut }

/-- Takes the output and the changes that came. -/
def take (l : Link) : Link × List Bytes × List Task.Change :=
  ({ l with output := [], changes := [] }, l.output, l.changes)

/-! ## Opening -/

/-- Whether the link can be used, or why it never will; nothing as long as it is not known. -/
def opening (l : Link) : Option (Except Error Unit) :=
  if l.settings.readOnly || l.ready then some (.ok ())
  else if l.command ≠ .up then
    some (.error (.connection "command connection closed before the session was ready"))
  else none

/-! ## Asking -/

/-- The frame that carries an action. -/
def carry (l : Link) (action : Action) : Frame :=
  match l.settings.mode with
  | .text => .text action.toJson
  | .binary => .binary (utf8 action.toJson)

/-- The frame to send for an action, unless the link only watches, is not ready, or has ended. -/
def ask (l : Link) (action : Action) : Except Error Frame :=
  if l.settings.readOnly then .error .readOnly
  else if !l.ready then .error .notReady
  else match l.command.obstacle? with
    | some reason => .error (.connection reason)
    | none => .ok (l.carry action)

end Link

end SharedTerminal.Client
