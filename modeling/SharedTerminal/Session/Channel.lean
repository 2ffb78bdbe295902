import SharedTerminal.Text.Quoted
import SharedTerminal.Text.Utf8

/-!
# Channels

A channel carries output from a session to one consumer.  Its queue is bounded, so that a slow
consumer holds up neither the session nor the others: a chunk that finds no room is refused, and
after a refusal the channel takes nothing more.
-/

namespace SharedTerminal.Session

/-- A channel, with what either side knows of it. -/
structure Channel where
  /-- The name by which the session knows the channel. -/
  id : String
  /-- How many chunks the queue holds at most. -/
  capacity : Nat
  /-- The chunks that the consumer has not taken yet. -/
  queue : List Bytes
  /-- Whether a chunk was refused. -/
  failed : Bool
  /-- Whether the session still holds its side. -/
  senderHeld : Bool
  /-- Whether the consumer still holds its side. -/
  receiverHeld : Bool
  /-- How many chunks were taken into the queue. -/
  messages : Nat
  /-- How many bytes they had. -/
  bytes : Nat
deriving DecidableEq, Repr

/-- What a consumer finds in its queue. -/
structure Received where
  /-- The chunks taken, in order. -/
  chunks : List Bytes
  /-- Whether the queue was found empty and nothing more can come. -/
  closed : Bool
deriving DecidableEq, Repr

namespace Channel

/-- The capacity of a channel for which none is chosen. -/
def defaultCapacity : Nat := 1024

/-- A new channel.  A queue holds at least one chunk. -/
def fresh (id : String) (capacity : Nat) : Channel :=
  ⟨id, max capacity 1, [], false, true, true, 0, 0⟩

/-- Whether the next chunk will be taken. -/
def accepts (c : Channel) : Bool :=
  !c.failed && c.receiverHeld && c.queue.length < c.capacity

/-- Whether a chunk was refused or the consumer has gone. -/
def isClosed (c : Channel) : Bool := c.failed || !c.receiverHeld

/-- Offers a chunk; the flag tells whether it was taken. -/
def send (c : Channel) (chunk : Bytes) : Channel × Bool :=
  if c.accepts then
    ({ c with
        queue := c.queue ++ [chunk]
        messages := c.messages + 1
        bytes := c.bytes + chunk.length }, true)
  else ({ c with failed := true }, false)

/-- Takes chunks out of the queue, at most `max` of them if there is a limit. -/
def receive (c : Channel) : Option Nat → Channel × Received
  | none => ({ c with queue := [] }, ⟨c.queue, !c.senderHeld⟩)
  | some max =>
    ({ c with queue := c.queue.drop max },
      ⟨c.queue.take max, c.queue.length < max && !c.senderHeld⟩)

/-- The session lets go of its side. -/
def release (c : Channel) : Channel := { c with senderHeld := false }

/-- The consumer lets go of its side. -/
def dropReceiver (c : Channel) : Channel := { c with receiverHeld := false }

/-- A truth value as a word. -/
def word (b : Bool) : String := if b then "true" else "false"

/-- A channel as a diagnostic text. -/
def describe (c : Channel) : String :=
  "OutputChannel \x7b id: " ++ Quoted.quote c.id ++ ", closed: " ++ word c.isClosed
    ++ ", stats: ChannelStats \x7b messages_sent: " ++ toString c.messages ++ ", bytes_sent: "
    ++ toString c.bytes ++ " \x7d \x7d"

end Channel

end SharedTerminal.Session
