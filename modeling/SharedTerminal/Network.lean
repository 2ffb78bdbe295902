import SharedTerminal.Client.Command
import SharedTerminal.Gateway
import SharedTerminal.Network.Party
import SharedTerminal.Network.Peer

/-!
# The network

A daemon and its clients, joined by connections.  A connection carries frames in order; the end of
either side answers questions whether it is there, and a frame that closes a connection ends it.

The clients are links, the client as a program, and bare peers, which send what they are told to
and show what arrives.  In place of a gateway there can be a stand-in that lets everyone in, or
everyone but those who ask for output; then the far ends of the connections are peers too.

Between two steps everything that can happen happens: `settle` lets the daemon speak and the clients
go on until all is quiet.  Time passes only when someone waits.
-/

namespace SharedTerminal

namespace Network

/-- The daemon's side. -/
inductive Daemon where
  /-- A gateway. -/
  | gateway (g : Gateway)
  /-- A stand-in; the flag tells whether it lets no one see output. -/
  | standIn (strict : Bool)

end Network

/-- A daemon and its clients. -/
structure Network where
  /-- The address of the daemon. -/
  address : String
  /-- The daemon. -/
  daemon : Network.Daemon
  /-- The client's end of each connection that was let in. -/
  wires : List Network.Party
  /-- The peers. -/
  peers : List (String × Network.Peer)
  /-- The links. -/
  attempts : List (Network.Owner × Network.Attempt)
  /-- The client as a program. -/
  program : Option Client.Run
  /-- The connections that a stand-in let in and that were not shown. -/
  accepted : List (String × String)
  /-- Whether the daemon has stopped. -/
  stopped : Bool
  /-- The time, in milliseconds. -/
  clock : Nat

namespace Network

/-- A daemon without clients. -/
def fresh (address : String) (daemon : Daemon) : Network :=
  ⟨address, daemon, [], [], [], none, [], false, 0⟩

/-- Changes the entry of a key. -/
def update {κ α : Type} [BEq κ] (table : List (κ × α)) (key : κ) (f : α → α) : List (κ × α) :=
  table.map fun entry => if entry.1 == key then (entry.1, f entry.2) else entry

/-- Puts an entry in place of those of its key. -/
def assign {κ α : Type} [BEq κ] (table : List (κ × α)) (key : κ) (a : α) : List (κ × α) :=
  table.filter (fun entry => !(entry.1 == key)) ++ [(key, a)]

/-- The name of the peer at the far end of a connection with a stand-in. -/
def farName (wire : Nat) : String := "conn" ++ toString wire

/-- Changes a peer. -/
def onPeer (net : Network) (name : String) (f : Peer → Peer) : Network :=
  { net with peers := update net.peers name f }

/-- Changes a link. -/
def onLink (net : Network) (owner : Owner) (f : Client.Link → Client.Link) : Network :=
  { net with
    attempts := update net.attempts owner fun attempt => { attempt with link := f attempt.link } }

/-- Changes the gateway, if there is one. -/
def onGateway (net : Network) (f : Gateway → Gateway) : Network :=
  match net.daemon with
  | .gateway g => { net with daemon := .gateway (f g) }
  | .standIn _ => net

/-- The gateway, if there is one. -/
def gateway? (net : Network) : Option Gateway :=
  match net.daemon with
  | .gateway g => some g
  | .standIn _ => none

/-! ## Carrying frames -/

/-- The newest connection with a party at the client's end. -/
def wireOf? (net : Network) (party : Party) : Option Nat :=
  (net.wires.zipIdx.filter fun wire => wire.1 = party).getLast?.map (·.2)

/-- Carries a frame to the daemon, which does not answer. -/
def sendDaemon (net : Network) (wire : Nat) (f : Frame) : Network :=
  match net.daemon with
  | .gateway g => { net with daemon := .gateway (g.hear wire f) }
  | .standIn _ => net.onPeer (farName wire) (·.see f)

/-- Tells the daemon that a connection has ended. -/
def loseDaemon (net : Network) (wire : Nat) : Network :=
  match net.daemon with
  | .gateway g => { net with daemon := .gateway (g.depart wire) }
  | .standIn _ => net.onPeer (farName wire) Peer.lose

/-- Whether the end of a link still reads on a connection. -/
def reads (net : Network) (owner : Owner) (line : Client.Link → Client.Line) : Bool :=
  ((net.attempts.lookup owner).map fun attempt => line attempt.link) == some .up

/-- Answers a question of the daemon. -/
def answerDaemon (net : Network) (wire : Nat) (owner : Owner)
    (line : Client.Link → Client.Line) : Frame → Network
  | .ping bytes => if net.reads owner line then net.sendDaemon wire (.pong bytes) else net
  | _ => net

/-- Carries a frame to the client. -/
def sendClient (net : Network) (wire : Nat) (f : Frame) : Network :=
  match net.wires[wire]? with
  | none => net
  | some (.peer name) =>
    match f with
    | .close _ =>
      let net := net.onPeer name fun p => if net.stopped then p.lose else p.see f
      net.sendDaemon wire (.close none)
    | f => net.onPeer name (·.see f)
  | some (.command owner) =>
    (net.answerDaemon wire owner (·.command) f).onLink owner (·.hearCommand f)
  | some (.status owner) =>
    (net.answerDaemon wire owner (·.status) f).onLink owner (·.hearStatus f)

/-- Tells the client that a connection has ended. -/
def loseClient (net : Network) (wire : Nat) : Network :=
  match net.wires[wire]? with
  | none => net
  | some (.peer name) => net.onPeer name Peer.lose
  | some (.command owner) => net.onLink owner Client.Link.loseCommand
  | some (.status owner) => net.onLink owner Client.Link.loseStatus

/-- Carries a signal of the gateway to the client. -/
def deliver (net : Network) (wire : Nat) : Gateway.Signal → Network
  | .frame f => net.sendClient wire f
  | .gone => net.loseClient wire

/-! ## Opening and closing connections -/

/-- The refusal of a stand-in. -/
def forbidden : Gateway.Refusal := ⟨403, ""⟩

/-- Opens a connection with a path, from a party. -/
def connect (net : Network) (party : Party) (path : String) : Network × Except Gateway.Refusal Nat :=
  match net.daemon with
  | .gateway g =>
    match g.welcome path with
    | .error refusal => (net, .error refusal)
    | .ok (g, wire) =>
      ({ net with daemon := .gateway g, wires := net.wires ++ [party] }, .ok wire)
  | .standIn strict =>
    if strict && "/socket/term".toList.isPrefixOf path.toList then (net, .error forbidden)
    else
      let wire := net.wires.length
      ({ net with
          wires := net.wires ++ [party]
          peers := assign net.peers (farName wire) (.fresh wire)
          accepted := net.accepted ++ [(farName wire, path)] }, .ok wire)

/-- Whether a line can carry a frame that closes it. -/
def canClose : Client.Line → Bool
  | .up | .closed => true
  | .lost | .shut => false

/-- Closes a connection of a link, or drops it. -/
def hangUp (net : Network) (party : Party) (line : Client.Line) (politely : Bool) : Network :=
  match net.wireOf? party with
  | none => net
  | some wire =>
    if !canClose line then net
    else if politely then net.sendDaemon wire (.close none)
    else net.loseDaemon wire

/-- Ends both connections of a link: closes them, or drops them. -/
def endLink (net : Network) (owner : Owner) (politely : Bool) : Network :=
  match net.attempts.lookup owner with
  | none => net
  | some attempt =>
    let net := net.hangUp (.command owner) attempt.link.command politely
    let net := net.hangUp (.status owner) attempt.link.status politely
    net.onLink owner Client.Link.close

/-! ## Links -/

/-- The path that a client asks for. -/
def requestPath (url : Url) : String := String.ofList (Url.Path.text url.path)

/-- Whether a URL leads to the daemon. -/
def reaches (net : Network) (url : Url) : Bool :=
  match Url.parse net.address with
  | .ok (.known address) => address.host = url.host && address.port = url.port && !net.stopped
  | _ => false

/-- Why a connection that was refused cannot be used. -/
def refusalError (refusal : Gateway.Refusal) : Client.Error :=
  let name := if refusal.code == 403 then "Forbidden" else "Not Found"
  .connection ("HTTP error: " ++ toString refusal.code ++ " " ++ name)

/-- Opens both connections of a link: first that for status, and then that for commands. -/
def openWires (net : Network) (owner : Owner) (settings : Client.Settings) :
    Network × Except Client.Error Unit :=
  match settings.statusUrl, settings.commandUrl with
  | .error e, _ | _, .error e => (net, .error e)
  | .ok statusUrl, .ok commandUrl =>
    if !net.reaches commandUrl then
      (net, .error (.connection "IO error: Connection refused (os error 111)"))
    else
      match net.connect (.status owner) (requestPath statusUrl) with
      | (net, .error refusal) => (net, .error (refusalError refusal))
      | (net, .ok statusWire) =>
        match net.connect (.command owner) (requestPath commandUrl) with
        | (net, .error refusal) =>
          (net.sendDaemon statusWire (.close none), .error (refusalError refusal))
        | (net, .ok _) => (net, .ok ())

/-- Begins to open a link. -/
def openLink (net : Network) (owner : Owner) (settings : Client.Settings) : Network :=
  let net := net.endLink owner false
  let deadline := net.clock + settings.readyTimeout.nanoseconds / 1000000
  let (net, outcome) := net.openWires owner settings
  let attempt : Attempt := match outcome with
    | .ok () => ⟨.opened settings, deadline, none, false⟩
    | .error e => ⟨(Client.Link.opened settings).close, deadline, some (.error e), false⟩
  { net with attempts := assign net.attempts owner attempt }

/-- Takes note of what came of opening a link.  A link that cannot be used is closed. -/
def decide (net : Network) (owner : Owner) : Network :=
  match net.attempts.lookup owner with
  | none => net
  | some attempt =>
    match attempt.result, attempt.outcome net.clock with
    | none, some result =>
      let net := match result with
        | .ok () => net
        | .error _ => net.endLink owner true
      { net with
        attempts := update net.attempts owner fun attempt => { attempt with result := some result } }
    | _, _ => net

/-! ## Going on -/

/-- Lets the program go on. -/
def advanceProgram (net : Network) : Network :=
  match net.program, net.attempts.lookup .program with
  | some run, some attempt =>
    let (run, link, move) := run.advance attempt.result attempt.link net.clock
    let net := { net.onLink .program (fun _ => link) with program := some run }
    match move with
    | .wait => net
    | .send f =>
      match net.wireOf? (.command .program) with
      | some wire => net.sendDaemon wire f
      | none => net
    | .close => net.endLink .program true
    | .leave => net.endLink .program false
  | _, _ => net

/-- Lets the gateway speak. -/
def speak (net : Network) : Network :=
  match net.daemon with
  | .gateway g =>
    let (g, said) := g.speakAll
    said.foldl (fun net (wire, signal) => net.deliver wire signal)
      { net with daemon := .gateway g }
  | .standIn _ => net

/-- Lets everything happen once. -/
def round (net : Network) : Network :=
  let net := net.speak
  let net := (net.attempts.map (·.1)).foldl decide net
  net.advanceProgram

/-- Lets everything happen a number of times. -/
def rounds : Nat → Network → Network
  | 0, net => net
  | n + 1, net => rounds n net.round

/-- More rounds than it takes until all is quiet: a frame of the daemon leads to one of a client at
most, and that to the end of a session at most. -/
def enough : Nat := 8

/-- Lets everything happen that can happen without waiting. -/
def settle (net : Network) : Network := rounds enough net

/-- Waits until a time. -/
def waitUntil (net : Network) (time : Nat) : Network :=
  { net with clock := max net.clock time }.settle

/-- What came of opening the link with a name, if that is known. -/
def resultOf? (net : Network) (name : String) : Option (Except Client.Error Unit) :=
  (net.attempts.lookup (.named name)).bind Attempt.result

/-- Waits until it is known what came of opening a link, and gives it. -/
def awaitLink (net : Network) (name : String) : Network × Option (Except Client.Error Unit) :=
  match net.attempts.lookup (.named name) with
  | none => (net, none)
  | some attempt =>
    let net := if attempt.result.isSome then net else net.waitUntil attempt.deadline
    let net := { net with
      attempts := update net.attempts (.named name) fun attempt => { attempt with held := true } }
    (net, net.resultOf? name)

/-- The time at which the program does something next. -/
def nextTime? (net : Network) : Option Nat :=
  match net.program.map Client.Run.stage with
  | some .opening => (net.attempts.lookup .program).map Attempt.deadline
  | some (.lingering _ limit) => some limit
  | _ => none

/-- Waits for the program, at most a number of times. -/
def awaitProgram : Nat → Network → Network
  | 0, net => net
  | n + 1, net =>
    match net.nextTime? with
    | some time => awaitProgram n (net.waitUntil time)
    | none => net

end Network

end SharedTerminal
