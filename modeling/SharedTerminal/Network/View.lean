import SharedTerminal.Network

/-!
# What can be seen of a network

A look shows what has arrived since the last one, at every peer and on every link, and what the
engines were asked to do.  Nothing is shown twice.
-/

namespace SharedTerminal.Network

/-- What can be seen after a step. -/
structure View where
  /-- What each peer saw. -/
  arrivals : List (String × List Arrival)
  /-- The connections that a stand-in let in, with their paths. -/
  accepted : List (String × String)
  /-- The commands that each engine got. -/
  commands : List (Nat × List Engine.Command)
  /-- What came on each link. -/
  links : List (String × News)

/-- Lets the engines take their commands. -/
def takeCommands (net : Network) : Network × List (Nat × List Engine.Command) :=
  match net.daemon with
  | .standIn _ => (net, [])
  | .gateway g =>
    let (hub, taken) := (List.range g.hub.processes.length).foldl
      (fun (hub, taken) process =>
        match hub.takeCommands process with
        | (hub, some (_, commands)) =>
          (hub, if commands.isEmpty then taken else taken ++ [(process, commands)])
        | (hub, none) => (hub, taken))
      (g.hub, [])
    ({ net with daemon := .gateway { g with hub := hub } }, taken)

/-- Shows what can be seen, once. -/
def look (net : Network) : Network × View :=
  let (net, commands) := net.takeCommands
  let links := net.attempts.filterMap fun (owner, attempt) =>
    match owner with
    | .named name => some (name, attempt.news)
    | .program => none
  let shown := fun (attempt : Attempt) =>
    if attempt.held then { attempt with link := attempt.link.take.1 } else attempt
  let view : View :=
    { arrivals := (net.peers.map fun (name, peer) => (name, peer.arrivals)).filter (!·.2.isEmpty)
      accepted := net.accepted
      commands := commands
      links := links }
  ({ net with
      peers := net.peers.map fun (name, peer) => (name, { peer with arrivals := [] })
      accepted := []
      attempts := net.attempts.map fun (owner, attempt) => (owner, shown attempt) }, view)

end SharedTerminal.Network
