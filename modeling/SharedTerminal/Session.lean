import SharedTerminal.Engine
import SharedTerminal.Session.Channel
import SharedTerminal.Session.Error
import SharedTerminal.Session.Lifecycle
import SharedTerminal.Session.Listeners

/-!
# Sessions

A session joins the engine of one context to those who use it: at most one driver, any number of
observers, an output log and the listeners.  Output goes to all channels, and completion markers
to all but the driver's.  A channel that refuses a chunk is released, and the session goes on
without it.

Every channel that was ever attached keeps its seat, in the order of arrival, after it was
released: its consumer may still have chunks to take.  The same holds for listeners.
-/

namespace SharedTerminal

namespace Session

/-- What a channel is attached for. -/
inductive Role where
  /-- To drive. -/
  | driver
  /-- To observe. -/
  | observer
  /-- For nothing: it was let go. -/
  | released
deriving DecidableEq, Repr

/-- A channel and what it is attached for. -/
structure Seat where
  /-- What the channel is attached for. -/
  role : Role
  /-- The channel. -/
  channel : Channel
deriving DecidableEq, Repr

namespace Seat

/-- Lets the channel go. -/
def release (seat : Seat) : Seat :=
  match seat.role with
  | .released => seat
  | _ => ⟨.released, seat.channel.release⟩

/-- Offers a chunk to the channel and lets it go if it refuses. -/
def offer (chunk : Bytes) (seat : Seat) : Seat :=
  match seat.role with
  | .released => seat
  | role =>
    match seat.channel.send chunk with
    | (c, true) => ⟨role, c⟩
    | (c, false) => ⟨.released, c.release⟩

/-- Offers a chunk to an observer, and to no one else. -/
def offerObserver (chunk : Bytes) (seat : Seat) : Seat :=
  if seat.role = .observer then seat.offer chunk else seat

/-- Whether the seat is a given one that the next chunk will empty. -/
def isLost (role : Role) (seat : Seat) : Bool := seat.role = role && !seat.channel.accepts

/-- Whether the seat has a role and its channel a name. -/
def isNamed (role : Role) (id : String) (seat : Seat) : Bool :=
  seat.role = role && seat.channel.id == id

end Seat

/-- The engine of a session, as far as the session and its owner know it. -/
structure Process where
  /-- The commands that the engine has not taken yet. -/
  inbox : List Engine.Command
  /-- Whether the engine takes commands. -/
  running : Bool
  /-- Whether the session can send commands. -/
  linked : Bool
deriving DecidableEq, Repr

namespace Process

/-- An engine that was just started. -/
def fresh : Process := ⟨[], true, true⟩

/-- The engine with one more command to take; a stopped one takes none. -/
def tell (command : Engine.Command) (p : Process) : Process :=
  if p.running then { p with inbox := p.inbox ++ [command] } else p

/-- Tells the engine to stop, and forgets it. -/
def unlink (p : Process) : Process :=
  if p.linked then { p.tell .shutdown with linked := false } else p

end Process

/-- How a request to drive ends, if it is not refused. -/
inductive Attachment where
  /-- The channel drives. -/
  | driving
  /-- Another channel drives, and this one observes. -/
  | observing
deriving DecidableEq, Repr

/-- What happens if the engine is started. -/
structure Startup where
  /-- Whether the engine starts, or why not. -/
  outcome : Except Error Unit
  /-- The capacity of the output log, if one can be kept. -/
  logCapacity : Option Nat

end Session

/-- A session. -/
structure Session where
  /-- The context that the session belongs to. -/
  context : String
  /-- What decides how long the session lives. -/
  lifecycle : Session.Lifecycle
  /-- The mark that tells those outside that the session has ended. -/
  ended : Bool
  /-- Every channel that was ever attached. -/
  seats : List Session.Seat
  /-- The channel of the output log, from the start of the engine on. -/
  log : Option Session.Channel
  /-- Everyone who ever listened. -/
  listeners : Session.Listeners
  /-- The engine, from its start on. -/
  process : Option Session.Process
  /-- Whether someone is still to be told of the end. -/
  farewellPending : Bool
  /-- How often someone was told of the end. -/
  farewells : Nat
deriving DecidableEq, Repr

namespace Session

/-- A new session, without an engine.  `farewell` tells whether someone wants to be told of the
end. -/
def fresh (context : String) (farewell : Bool := true) : Session :=
  ⟨context, .initial, false, [], none, .empty, none, farewell, 0⟩

/-! ## What can be seen from outside -/

/-- Whether the session has ended, by its mark. -/
def isDestroyed (s : Session) : Bool := s.ended

/-- The phase of the session. -/
def phase (s : Session) : Phase := s.lifecycle.phase

/-- Whether a command runs. -/
def isActive (s : Session) : Bool := s.lifecycle.active

/-- Whether there is a driver. -/
def hasDriver (s : Session) : Bool := s.lifecycle.driver = .attached

/-- The channel that drives. -/
def driver? (s : Session) : Option Channel :=
  (s.seats.find? (·.role = .driver)).map Seat.channel

/-- How many channels observe. -/
def observerCount (s : Session) : Nat := s.seats.countP (·.role = .observer)

/-- How many listeners there are. -/
def listenerCount (s : Session) : Nat := s.listeners.size

/-! ## Carrying out effects -/

/-- Sends a chunk to the output log and gives the log up if it refuses. -/
def logChunk (chunk : Bytes) (log : Channel) : Channel :=
  if !log.senderHeld then log
  else match log.send chunk with
    | (c, true) => c
    | (c, false) => c.release

/-- Writes the completion marker of a status to the observers and the log. -/
def appendCompletion (status : Task.Status) (s : Session) : Session :=
  let marker := utf8 status.completionMarker
  { s with
    seats := s.seats.map (Seat.offerObserver marker)
    log := s.log.map (logChunk marker) }

/-- Sets the mark, lets everything and everyone go, and says farewell once. -/
def dismantle (s : Session) : Session :=
  { s with
    ended := true
    seats := s.seats.map Seat.release
    log := s.log.map Channel.release
    listeners := s.listeners.clear
    process := s.process.map Process.unlink
    farewellPending := false
    farewells := if s.farewellPending then s.farewells + 1 else s.farewells }

/-- Carries out an effect.  The first two are part of attaching a driver, and nothing is left to do
for them. -/
def carryOut (change : Option Task.Change) (s : Session) : Effect → Session
  | .startEngine | .demote => s
  | .appendCompletion status => s.appendCompletion status
  | .notifyListeners =>
    match change with
    | some c => { s with listeners := (s.listeners.broadcast c).1 }
    | none => s
  | .destroy => s.dismantle

/-- Lets something happen, with the change of status that it is about, if any. -/
def happen (s : Session) (o : Occurrence) (change : Option Task.Change) : Session :=
  let (next, effects) := s.lifecycle.apply o
  effects.foldl (carryOut change) { s with lifecycle := next }

/-! ## Attaching and detaching -/

/-- Seats an observer.  An observer with the same name is let go. -/
def seatObserver (s : Session) (c : Channel) : Session :=
  { s with
    seats := s.seats.map (fun seat => if seat.isNamed .observer c.id then seat.release else seat)
      ++ [⟨.observer, c⟩] }

/-- Seats the driver. -/
def seatDriver (s : Session) (c : Channel) : Session :=
  { s with seats := s.seats ++ [⟨.driver, c⟩] }

/-- Attaches a channel that asks to drive.  The first driver starts the engine; while a driver is
attached, the next one observes.  If the engine cannot be started, the session remains as it was
and hears of the failure. -/
def attachDriver (s : Session) (c : Channel) (startup : Startup) :
    Session × Except Error Attachment :=
  if s.lifecycle.destroyed then (s, .error (.destroyed s.context))
  else
    let (next, effects) := s.lifecycle.apply .driverAttached
    if effects.contains .startEngine then
      match startup.outcome with
      | .error e => (s.happen .engineFailed none, .error e)
      | .ok () =>
        ({ s with
            lifecycle := next
            process := some .fresh
            log := startup.logCapacity.map (Channel.fresh "") }.seatDriver c, .ok .driving)
    else if effects.contains .demote then
      ({ s with lifecycle := next }.seatObserver c, .ok .observing)
    else ({ s with lifecycle := next }.seatDriver c, .ok .driving)

/-- Attaches a channel that asks to observe. -/
def attachObserver (s : Session) (c : Channel) : Session × Except Error Unit :=
  if s.lifecycle.destroyed then (s, .error (.destroyed s.context)) else (s.seatObserver c, .ok ())

/-- Lets go the channels with a role and a name. -/
def vacate (s : Session) (role : Role) (id : String) : Session :=
  { s with
    seats := s.seats.map fun seat => if seat.isNamed role id then seat.release else seat }

/-- Detaches the driver, if it has the name; the flag tells whether it has. -/
def detachDriver (s : Session) (id : String) : Session × Bool :=
  if s.seats.any (Seat.isNamed .driver id) then
    ((s.vacate .driver id).happen .driverDetached none, true)
  else (s, false)

/-- Detaches the observer with a name; the flag tells whether there is one. -/
def detachObserver (s : Session) (id : String) : Session × Bool :=
  if s.seats.any (Seat.isNamed .observer id) then
    ((s.vacate .observer id).happen .observerDetached none, true)
  else (s, false)

/-! ## Output and status -/

/-- What a chunk that some channels refuse leads to. -/
def losses (s : Session) : List Occurrence :=
  (if s.seats.any (Seat.isLost .driver) then [.driverDetached] else [])
    ++ List.replicate (s.seats.countP (Seat.isLost .observer)) .observerDetached

/-- Writes a chunk of output to everyone attached. -/
def write (s : Session) (chunk : Bytes) : Session :=
  if s.lifecycle.destroyed then s
  else
    let offered :=
      { s with seats := s.seats.map (Seat.offer chunk), log := s.log.map (logChunk chunk) }
    s.losses.foldl (fun s o => s.happen o none) offered

/-- Takes note of a change of status. -/
def changeStatus (s : Session) (change : Task.Change) : Session × Except Error Unit :=
  if s.lifecycle.destroyed then (s, .error (.destroyed s.context))
  else (s.happen (.statusChanged change.after) (some change), .ok ())

/-- Takes an event from the engine. -/
def handle (s : Session) : Engine.Event → Session
  | .output bytes => s.write bytes
  | .status task before after =>
    (s.changeStatus ⟨toString task, before, after, s.context⟩).1

/-! ## Input -/

/-- The engine, if the channel with a name drives it. -/
def drivenProcess (s : Session) (id : String) : Except Error Process :=
  if s.lifecycle.destroyed then .error (.destroyed s.context)
  else if !s.seats.any (Seat.isNamed .driver id) then .error (.noDriver s.context)
  else match s.process with
    | none => .error (.engine "engine not started")
    | some p => if p.linked then .ok p else .error (.engine "engine not started")

/-- Passes a command of the channel with a name to the engine. -/
def request (s : Session) (id : String) (command : Engine.Command) :
    Session × Except Error Unit :=
  match s.drivenProcess id with
  | .error e => (s, .error e)
  | .ok p =>
    if p.running then ({ s with process := some (p.tell command) }, .ok ())
    else (s, .error (.engine "engine stopped"))

/-- Passes what the driver typed to the engine. -/
def submit (s : Session) (id : String) (bytes : Bytes) : Session × Except Error Unit :=
  s.request id (.input bytes)

/-- Passes the size of the driver's terminal to the engine. -/
def resize (s : Session) (id : String) (cols rows : UInt16) : Session × Except Error Unit :=
  s.request id (.resize cols rows)

/-! ## Listening, and the end -/

/-- Adds a listener and gives its number. -/
def subscribe (s : Session) : Session × Except Error Nat :=
  if s.lifecycle.destroyed then (s, .error (.destroyed s.context))
  else
    let (ls, n) := s.listeners.subscribe
    ({ s with listeners := ls }, .ok n)

/-- Removes a listener; the flag tells whether there was one. -/
def unsubscribe (s : Session) (n : Nat) : Session × Bool :=
  if s.listeners.isRegistered n then
    ({ s with listeners := (s.listeners.unsubscribe n).1 }.happen .listenerDetached none, true)
  else (s, false)

/-- Ends the session. -/
def shutdown (s : Session) : Session := s.happen .shutdown none

/-! ## The other side of channels, listeners and engine -/

/-- Changes the channel on a seat, given by its place. -/
def modifyChannel (s : Session) (seat : Nat) (f : Channel → Channel) : Session :=
  { s with seats := s.seats.modify seat fun seat => { seat with channel := f seat.channel } }

/-- The consumer on a seat takes chunks, at most `max` of them if there is a limit. -/
def receive (s : Session) (seat : Nat) (max : Option Nat) : Session × Option Received :=
  match s.seats[seat]? with
  | none => (s, none)
  | some it =>
    if it.channel.receiverHeld then
      let (c, received) := it.channel.receive max
      (s.modifyChannel seat fun _ => c, some received)
    else (s, none)

/-- The consumer on a seat goes away; the flag tells whether it was there. -/
def dropReceiver (s : Session) (seat : Nat) : Session × Bool :=
  match s.seats[seat]? with
  | none => (s, false)
  | some it => (s.modifyChannel seat Channel.dropReceiver, it.channel.receiverHeld)

/-- A listener reads what was announced to it. -/
def listen (s : Session) (n : Nat) : Session × Option Heard :=
  let (ls, heard) := s.listeners.receive n
  ({ s with listeners := ls }, heard)

/-- A listener stops reading; the flag tells whether it was reading. -/
def dropListener (s : Session) (n : Nat) : Session × Bool :=
  let (ls, was) := s.listeners.dropReceiver n
  ({ s with listeners := ls }, was)

/-- The engine takes its commands, if it has not gone away. -/
def takeCommands (s : Session) : Session × Option (List Engine.Command) :=
  match s.process with
  | none => (s, none)
  | some p =>
    if p.running then ({ s with process := some { p with inbox := [] } }, some p.inbox)
    else (s, none)

/-- The engine goes away; the flag tells whether it was there. -/
def dropProcess (s : Session) : Session × Bool :=
  match s.process with
  | none => (s, false)
  | some p => ({ s with process := some { p with inbox := [], running := false } }, p.running)

/-- The log writer takes everything that waits for it. -/
def flushLog (s : Session) : Session × Bytes :=
  match s.log with
  | none => (s, [])
  | some c =>
    let (c, received) := c.receive none
    ({ s with log := some c }, received.chunks.flatten)

end Session

end SharedTerminal
