import SharedTerminal.Frame

/-!
# Peers

A peer is a bare end of a connection: it sends what it is told to, and remembers what arrives until
that is shown.  Nothing arrives after the end.
-/

namespace SharedTerminal.Network

/-- What a peer sees. -/
inductive Arrival where
  /-- A frame. -/
  | frame (f : Frame)
  /-- The end of the connection. -/
  | ended
deriving DecidableEq, Repr

/-- A bare end of a connection. -/
structure Peer where
  /-- The number of the connection. -/
  wire : Nat
  /-- Whether the peer has closed the connection. -/
  closing : Bool
  /-- Whether the connection stands. -/
  up : Bool
  /-- What the peer has seen and not shown. -/
  arrivals : List Arrival
deriving DecidableEq, Repr

namespace Peer

/-- A peer at the end of a new connection. -/
def fresh (wire : Nat) : Peer := ⟨wire, false, true, []⟩

/-- Sees a frame.  One that closes the connection is its end to a peer that has closed it too. -/
def see (p : Peer) (f : Frame) : Peer :=
  if !p.up then p
  else match f with
    | .close _ =>
      { p with
        up := false
        arrivals := p.arrivals ++ [if p.closing then .ended else .frame f] }
    | f => { p with arrivals := p.arrivals ++ [.frame f] }

/-- Sees the end of the connection. -/
def lose (p : Peer) : Peer :=
  if p.up then { p with up := false, arrivals := p.arrivals ++ [.ended] } else p

/-- Whether the peer can send. -/
def canSend (p : Peer) : Bool := p.up && !p.closing

end Peer

end SharedTerminal.Network
