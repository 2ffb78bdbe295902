import SharedTerminal.Network

/-!
# What can be done in a network

One function for each thing that someone can do: connect and send as a peer, open, use and close a
link, run the program, let an engine speak or go away, and stop the daemon.  Each does no more than
that; what follows from it happens when the network settles.
-/

namespace SharedTerminal.Network

/-- The part of a target that names the path; it is never empty. -/
def pathPart (target : String) : String :=
  match target.toList.takeWhile fun c => c != '?' && c != '#' with
  | [] => "/"
  | path => String.ofList path

/-- Carries a frame that a peer sends, to whichever end is the other one. -/
def carryFrom (net : Network) (wire : Nat) (f : Frame) : Network :=
  match net.daemon with
  | .standIn _ => net.sendClient wire f
  | .gateway _ => net.sendDaemon wire f

/-- Sends a frame from a peer; tells whether it could be sent, if there is such a peer.  A gateway
answers questions, and ends a connection that is closed. -/
def send (net : Network) (name : String) (f : Frame) : Network × Option Bool :=
  match net.peers.lookup name with
  | none => (net, none)
  | some peer =>
    if !peer.canSend then (net, some false)
    else
      let closes : Bool := match f with
        | .close _ => true
        | _ => false
      let net := net.onPeer name fun p => { p with closing := p.closing || closes }
      let net := net.carryFrom peer.wire f
      match net.daemon, f with
      | .gateway _, .ping bytes => (net.onPeer name (·.see (.pong bytes)), some true)
      | .gateway _, .close _ => (net.onPeer name Peer.lose, some true)
      | _, _ => (net, some true)

/-- Drops the connection of a peer and the peer; tells whether there is such a peer. -/
def cut (net : Network) (name : String) : Network × Bool :=
  match net.peers.lookup name with
  | none => (net, false)
  | some peer =>
    let net := { net with peers := net.peers.filter fun entry => entry.1 != name }
    if !peer.up then (net, true)
    else match net.daemon with
      | .standIn _ => (net.loseClient peer.wire, true)
      | .gateway _ => (net.loseDaemon peer.wire, true)

/-- Connects a peer with a name.  An earlier peer of that name is dropped then. -/
def connectPeer (net : Network) (name path : String) : Network × Except Gateway.Refusal Unit :=
  match net.connect (.peer name) (pathPart path) with
  | (net, .error refusal) => (net, .error refusal)
  | (net, .ok wire) =>
    let net := (net.cut name).1
    ({ net with peers := assign net.peers name (.fresh wire) }, .ok ())

/-- The link with a name, if it can be used. -/
def held? (net : Network) (name : String) : Option Client.Link :=
  match net.attempts.lookup (.named name) with
  | some ⟨link, _, some (.ok ()), true⟩ => if link.command = .shut then none else some link
  | _ => none

/-- Sends an action on a link; gives the outcome if the link can be used. -/
def ask (net : Network) (name : String) (action : Action) :
    Network × Option (Except Client.Error Unit) :=
  match net.held? name with
  | none => (net, none)
  | some link =>
    match link.ask action, net.wireOf? (.command (.named name)) with
    | .ok f, some wire => (net.sendDaemon wire f, some (.ok ()))
    | .ok _, none => (net, some (.ok ()))
    | .error e, _ => (net, some (.error e))

/-- Closes a link; tells whether it could be used. -/
def closeLink (net : Network) (name : String) : Network × Bool :=
  match net.held? name with
  | none => (net, false)
  | some _ => (net.endLink (.named name) true, true)

/-- Drops a link; tells whether there is one. -/
def dropLink (net : Network) (name : String) : Network × Bool :=
  let known := (net.attempts.lookup (.named name)).isSome
  let net := net.endLink (.named name) false
  ({ net with attempts := net.attempts.filter fun entry => entry.1 ≠ .named name }, known)

/-- Starts the client as a program. -/
def startProgram (net : Network) (args : List String) : Network :=
  let run := Client.Run.begin args
  let net := { net with program := some run }
  match run.exit? with
  | some _ => net
  | none => net.openLink .program run.command.settings

/-- Ends a session by its context; tells whether there is one. -/
def endSession (net : Network) (context : String) : Network × Bool :=
  match net.gateway? with
  | none => (net, false)
  | some g =>
    match g.hub.find? context with
    | none => (net, false)
    | some n =>
      (net.onGateway fun g => { g with hub := g.hub.modify n Session.shutdown }, true)

/-- Lets an engine produce events; tells whether it runs. -/
def emit (net : Network) (process : Nat) (events : List Engine.Event) : Network × Bool :=
  match net.gateway? with
  | none => (net, false)
  | some g =>
    let (hub, was) := g.hub.emit process events
    (net.onGateway fun g => { g with hub := hub }, was)

/-- Lets an engine go away; tells whether it was there. -/
def dropProcess (net : Network) (process : Nat) : Network × Bool :=
  match net.gateway? with
  | none => (net, false)
  | some g =>
    let (hub, was) := g.hub.dropProcess process
    (net.onGateway fun g => { g with hub := hub }, was)

/-- Stops the daemon.  No peer is told more than that its connection has ended. -/
def stop (net : Network) : Network :=
  match net.daemon with
  | .standIn _ => net
  | .gateway g =>
    let (g, said) := g.stop
    let net := { net with daemon := .gateway g, stopped := true }
    let net := said.foldl (fun net (wire, signal) => net.deliver wire signal) net
    (List.range net.wires.length).foldl loseClient net

end SharedTerminal.Network
