import SharedTerminal.Config
import SharedTerminal.Endpoint
import SharedTerminal.Envelope
import SharedTerminal.Frame
import SharedTerminal.Hub

/-!
# The gateway

The gateway lets connections in.  The path that a visitor asks for names an endpoint, and with it a
context and what the visitor comes for: to type and see output, to see output only, or to hear how
tasks fare.  Whoever comes for output gets a channel of the session, and whoever comes for status
becomes a listener; either is let go when the connection ends.

What the gateway writes waits in channels and listeners until `speak` turns it into frames.
-/

namespace SharedTerminal

namespace Gateway

/-- What the gateway is told. -/
structure Settings where
  /-- What the sessions have in common. -/
  hub : Hub.Settings
  /-- How many chunks wait for a visitor at most. -/
  capacity : Nat

/-- Whether the gateway lets connections in. -/
inductive Phase where
  /-- It does not. -/
  | stopped
  /-- It does. -/
  | running
  /-- It ends all sessions first. -/
  | closing
deriving DecidableEq, Repr

/-- What a visitor came for. -/
inductive Purpose where
  /-- To see output, and to type if it drives: the session, its seat there, and the framing of
  output. -/
  | terminal (session seat : Nat) (drives : Bool) (mode : Mode)
  /-- To hear how tasks fare: the session and the number of the listener there. -/
  | news (session listener : Nat)
  /-- For something that it did not get, with the reason. -/
  | nothing (reason : String)
deriving DecidableEq, Repr

/-- A connection that was let in. -/
structure Visit where
  /-- What the visitor came for. -/
  purpose : Purpose
  /-- Whether the gateway still writes. -/
  speaking : Bool
  /-- Whether the gateway still reads. -/
  listening : Bool
deriving DecidableEq, Repr

/-- Why a connection is not let in. -/
structure Refusal where
  /-- The kind of the refusal, by number. -/
  code : Nat
  /-- The reason in words. -/
  body : String
deriving DecidableEq, Repr

/-- What a visitor gets from the gateway. -/
inductive Signal where
  /-- A frame. -/
  | frame (f : Frame)
  /-- The end of the connection, without a frame. -/
  | gone
deriving DecidableEq, Repr

end Gateway

/-- The state of a gateway. -/
structure Gateway where
  /-- What the gateway was told. -/
  settings : Gateway.Settings
  /-- The sessions. -/
  hub : Hub
  /-- Every connection that was let in. -/
  visits : List Gateway.Visit
  /-- Whether the gateway lets connections in. -/
  phase : Gateway.Phase

namespace Gateway

open Session (Channel)

/-- A gateway that lets no connections in yet. -/
def idle (settings : Settings) : Gateway := ⟨settings, .empty, [], .stopped⟩

/-- Why a gateway cannot be opened. -/
inductive Obstacle where
  /-- It is told no address. -/
  | address (error : Config.Error)
  /-- The address, here with its port, is that of another machine. -/
  | foreign (socket : String)
deriving DecidableEq, Repr

/-- The text of an obstacle. -/
def Obstacle.message : Obstacle → String
  | address e => "Invalid listen address: " ++ e.message
  | foreign socket => "Failed to bind " ++ socket ++ ": Cannot assign requested address (os error 99)"

/-- Opens a gateway at an address of this machine. -/
def atAddress (server : Config.Server) (settings : Settings) : Except Obstacle Gateway :=
  match Ip.parse? server.bindAddress.toList with
  | none => .error (.address (.bindAddress server.bindAddress))
  | some ip =>
    if ip.isLocal then .ok (idle settings)
    else .error (.foreign (String.ofList (ip.socketText server.port.toNat)))

/-- Begins to let connections in. -/
def run (g : Gateway) : Except String Gateway :=
  if g.phase = .stopped then .ok { g with phase := .running }
  else .error "Server is already running"

/-! ## Letting in -/

/-- The name of the channel of the next visitor. -/
def nextName (g : Gateway) : String := toString g.visits.length

/-- Takes note of a visitor and gives its number. -/
def enroll (g : Gateway) (purpose : Purpose) : Gateway × Nat :=
  ({ g with visits := g.visits ++ [⟨purpose, true, true⟩] }, g.visits.length)

/-- Gives a visitor a seat in the session of a context. -/
def seatIn (g : Gateway) (context : String) (mode : Mode) (readOnly : Bool) :
    Hub × Except Session.Error Purpose :=
  let (hub, n) := g.hub.findOrCreate context
  let channel := Channel.fresh g.nextName g.settings.capacity
  let seat := (hub.session n).seats.length
  if readOnly then
    let (hub, outcome) := hub.run n (·.attachObserver channel)
    (hub, outcome.map fun _ => .terminal n seat false mode)
  else
    let (hub, outcome) := hub.attachDriver g.settings.hub n channel
    (hub, outcome.map fun attachment => .terminal n seat (attachment = .driving) mode)

/-- Makes a visitor a listener of the session of a context. -/
def subscribeTo (g : Gateway) (context : String) : Hub × Except Session.Error Purpose :=
  let (hub, n) := g.hub.findOrCreate context
  let (hub, outcome) := hub.run n Session.subscribe
  (hub, outcome.map fun listener => .news n listener)

/-- Tries once, and once more if the session ended in between. -/
def persist (g : Gateway) (attempt : Gateway → Hub × Except Session.Error Purpose) :
    Hub × Except Session.Error Purpose :=
  match attempt g with
  | (hub, .error (.destroyed _)) => attempt { g with hub := hub }
  | result => result

/-- Lets in a visitor that asks for a path, unless the path names no endpoint. -/
def welcome (g : Gateway) (path : String) : Except Refusal (Gateway × Nat) :=
  match Endpoint.parse path with
  | .error e => .error ⟨404, e.message⟩
  | .ok endpoint =>
    let (hub, outcome) := match endpoint with
      | .command context mode readOnly => g.persist (·.seatIn context mode readOnly)
      | .status context => g.persist (·.subscribeTo context)
    let purpose := match outcome with
      | .ok purpose => purpose
      | .error e => .nothing e.message
    .ok ({ g with hub := hub }.enroll purpose)

/-! ## Listening -/

/-- Changes what is known of a visitor. -/
def modify (g : Gateway) (k : Nat) (f : Visit → Visit) : Gateway :=
  { g with visits := g.visits.modify k f }

/-- The name of the channel of a visitor. -/
def channelName (k : Nat) : String := toString k

/-- Lets go of what a visitor came for. -/
def release (g : Gateway) (k : Nat) : Purpose → Gateway
  | .terminal n _ drives _ =>
    if drives then { g with hub := (g.hub.run n (·.detachDriver (channelName k))).1 }
    else { g with hub := (g.hub.run n (·.detachObserver (channelName k))).1 }
  | .news n listener => { g with hub := (g.hub.run n (·.unsubscribe listener)).1 }
  | .nothing _ => g

/-- Takes note that a connection has ended.  Writing stops at once.  That a writer is left up to a
second to write what still waits is said by letting it `speak` before the connection ends. -/
def depart (g : Gateway) (k : Nat) : Gateway :=
  match g.visits[k]? with
  | none => g
  | some visit =>
    if visit.listening then
      (g.release k visit.purpose).modify k fun visit =>
        { visit with speaking := false, listening := false }
    else g

/-- Does what the driver of a session asks for.  The connection ends with the session. -/
def obey (g : Gateway) (k n : Nat) (action : Action) : Gateway :=
  let (hub, outcome) := match action with
    | .input text => g.hub.run n (·.submit (channelName k) (utf8 text))
    | .resize cols rows => g.hub.run n (·.resize (channelName k) cols rows)
  let g := { g with hub := hub }
  match outcome with
  | .error (.destroyed _) => g.depart k
  | _ => g

/-- Hears a frame from a visitor.  Only one who drives is obeyed, and what makes no sense is
ignored. -/
def hear (g : Gateway) (k : Nat) (f : Frame) : Gateway :=
  match g.visits[k]? with
  | none => g
  | some visit =>
    if !visit.listening then g
    else match f, visit.purpose with
      | .close _, _ => g.depart k
      | f, .terminal n _ true _ =>
        match f.payload? with
        | none => g
        | some payload =>
          match Action.ofBytes payload with
          | .ok action => g.obey k n action
          | .error _ => g
      | _, _ => g

/-! ## Speaking -/

/-- A chunk of output as a frame. -/
def chunkFrame (mode : Mode) (chunk : Bytes) : Frame :=
  match mode with
  | .text => .text (String.ofList (Utf8.decodeLossy chunk))
  | .binary => .binary chunk

/-- Writes what waits for a visitor.  Where nothing more can come the connection is closed. -/
def speak (g : Gateway) (k : Nat) : Gateway × List Signal :=
  match g.visits[k]? with
  | none => (g, [])
  | some visit =>
    if !visit.speaking then (g, [])
    else match visit.purpose with
      | .nothing reason =>
        (g.modify k fun visit => { visit with speaking := false, listening := false },
          [.frame (.close (some ⟨Frame.Reason.failure, reason⟩)), .gone])
      | .terminal n seat _ mode =>
        match g.hub.run n (·.receive seat none) with
        | (_, none) => (g, [])
        | (hub, some received) =>
          let frames := received.chunks.map fun chunk => Signal.frame (chunkFrame mode chunk)
          let g := { g with hub := hub }
          if received.closed then
            (g.modify k fun visit => { visit with speaking := false },
              frames ++ [.frame (.close none)])
          else (g, frames)
      | .news n listener =>
        match g.hub.run n (·.listen listener) with
        | (_, none) => (g, [])
        | (hub, some heard) =>
          let frames := heard.changes.map fun change => Signal.frame (.text change.toJson)
          let g := { g with hub := hub }
          if heard.closed then (g.depart k, frames ++ [.frame (.close none), .gone]) else (g, frames)

/-- Writes what waits for all visitors. -/
def speakAll (g : Gateway) : Gateway × List (Nat × Signal) :=
  (List.range g.visits.length).foldl
    (fun (g, said) k =>
      let (g, signals) := g.speak k
      (g, said ++ signals.map fun s => (k, s)))
    (g, [])

/-! ## Stopping -/

/-- Ends all sessions and all connections. -/
def stop (g : Gateway) : Gateway × List (Nat × Signal) :=
  let closed := { g with hub := g.hub.shutdown, phase := .closing }
  let (g, said) := closed.speakAll
  let g := (List.range g.visits.length).foldl depart g
  ({ g with phase := .stopped }, said)

end Gateway

end SharedTerminal
