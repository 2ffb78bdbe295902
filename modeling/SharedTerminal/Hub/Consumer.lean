import SharedTerminal.Hub

/-!
# Consumers

Whoever offers a channel to a session keeps the consumer's end of it.  If the session takes the
channel, that end is at a seat of the session; if not, the channel has no other end.
-/

namespace SharedTerminal.Hub

open Session (Channel Error Attachment Received)

/-- The consumer's end of a channel. -/
inductive Consumer where
  /-- At a seat of a session. -/
  | seated (session seat : Nat)
  /-- Of a channel that was refused. -/
  | refused (channel : Channel)
deriving DecidableEq, Repr

/-- Offers a channel to a session, to drive it or to observe it, and keeps the consumer's end. -/
def offer (hub : Hub) (settings : Settings) (n : Nat) (c : Channel) (driving : Bool) :
    Hub × Consumer × Except Error Attachment :=
  let seat := (hub.session n).seats.length
  let (hub, outcome) :=
    if driving then hub.attachDriver settings n c
    else
      let (hub, outcome) := hub.run n (·.attachObserver c)
      (hub, outcome.map fun _ => .observing)
  match outcome with
  | .ok _ => (hub, .seated n seat, outcome)
  | .error _ => (hub, .refused c.release, outcome)

namespace Consumer

/-- Takes what has come, up to a number of chunks, unless the end was dropped. -/
def receive (k : Consumer) (hub : Hub) (limit : Option Nat) : Hub × Option Received :=
  match k with
  | seated n seat => hub.run n (·.receive seat limit)
  | refused c => (hub, if c.receiverHeld then some (c.receive limit).2 else none)

/-- Drops the end; the flag tells whether it was there. -/
def drop (k : Consumer) (hub : Hub) : Hub × Consumer × Bool :=
  match k with
  | seated n seat =>
    let (hub, was) := hub.run n (·.dropReceiver seat)
    (hub, k, was)
  | refused c => (hub, refused c.dropReceiver, c.receiverHeld)

end Consumer

end SharedTerminal.Hub
