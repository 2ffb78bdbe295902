import SharedTerminal.Network.Step
import Mathlib.Data.List.Basic

/-!
# One link and a stand-in

A network in which a stand-in for a daemon is joined with one link, by a status connection and a
command connection (`Wire`).  Whatever the daemon's side does, and whatever the owner of the link
does, such a network stays one, and what becomes of it is known from the attempt to open the link
and from the data that the daemon's side was sent (`IsJoined`).

As long as a connection is up for the link, the other end of it can talk.  So what the daemon's
side says is heard, and what it cannot say would not have been heard anyway: there is one lemma for
each thing that can happen, and it does not ask how the connection stands.
-/

namespace SharedTerminal.Network

/-! ## Tables -/

lemma lookup_update {α : Type} (table : List (String × α)) (key k : String) (f : α → α) :
    (update table key f).lookup k =
      if k = key then (table.lookup k).map f else table.lookup k := by
  induction table with
  | nil => simp [update]
  | cons entry table ih =>
    obtain ⟨k', a⟩ := entry
    have hcons : update ((k', a) :: table) key f =
        (k', if k' = key then f a else a) :: update table key f := by
      by_cases hkey : k' = key <;> simp [update, hkey]
    rw [hcons, List.lookup_cons, List.lookup_cons, ih]
    by_cases hk : k = k'
    · subst hk
      by_cases hkey : k = key <;> simp [hkey]
    · have hne : (k == k') = false := beq_false_of_ne hk
      simp only [hne]

lemma lookup_filter_ne {α : Type} (table : List (String × α)) (key k : String) :
    (table.filter fun entry => entry.1 != key).lookup k =
      if k = key then none else table.lookup k := by
  induction table with
  | nil => simp
  | cons entry table ih =>
    obtain ⟨k', a⟩ := entry
    by_cases hkey : k' = key
    · rw [List.filter_cons_of_neg (by simp [hkey]), ih, List.lookup_cons]
      by_cases hk : k = key
      · rw [if_pos hk, if_pos hk]
      · have hne : (k == k') = false := beq_false_of_ne (hkey ▸ hk)
        simp only [hne, if_neg hk]
    · rw [List.filter_cons_of_pos (by simp [hkey]), List.lookup_cons, List.lookup_cons, ih]
      by_cases hk : k = k'
      · subst hk
        simp [hkey]
      · have hne : (k == k') = false := beq_false_of_ne hk
        simp only [hne]

end SharedTerminal.Network

namespace SharedTerminal.Client.Link

/-! ## What a link hears -/

/-- What is heard on the status connection is of no concern to the command connection. -/
lemma hearStatus_cases (l : Link) (f : Frame) :
    ∃ status changes, l.hearStatus f = { l with status := status, changes := changes } ∧
      (status = .up → l.status = .up ∧ f.isClose = false) := by
  by_cases hup : l.status = .up
  · cases f with
    | text text =>
      rcases hparse : Task.Change.parse text.toList with e | change
      · refine ⟨l.status, l.changes, ?_, fun _ => ⟨hup, rfl⟩⟩
        show l.hearStatus (.text text) = l
        simp [hearStatus, hparse]
      · refine ⟨l.status, l.changes ++ [change], ?_, fun _ => ⟨hup, rfl⟩⟩
        simp [hearStatus, hup, hparse]
    | close reason =>
      exact ⟨.closed, l.changes, by simp [hearStatus, hup], fun h => nomatch h⟩
    | _ =>
      refine ⟨l.status, l.changes, ?_, fun _ => ⟨hup, rfl⟩⟩
      simp [hearStatus]
  · exact ⟨l.status, l.changes, if_pos hup, fun h => absurd h hup⟩

lemma takeOutput_eq (l : Link) (data : Bytes) :
    l.takeOutput data =
      { l with
        ready := l.ready || data = utf8 Task.readyMarker
        output := l.output ++ if data = utf8 Task.readyMarker then [] else [data] } := by
  by_cases hdata : data = utf8 Task.readyMarker <;> simp [takeOutput, hdata]

/-- On the command connection a link takes data, and hears that it is closed. -/
lemma hearCommand_eq (l : Link) (f : Frame) :
    l.hearCommand f =
      if l.command = .up then
        match f.payload? with
        | some data => l.takeOutput data
        | none => if f.isClose then { l with command := .closed } else l
      else l := by
  by_cases hup : l.command = .up
  · cases f <;> simp [hearCommand, hup, Frame.payload?, Frame.isClose]
  · simp [hearCommand, hup]

/-- What carries an action is data. -/
lemma isSome_payload?_carry (l : Link) (action : Action) :
    (l.carry action).payload?.isSome = true := by
  rcases hm : l.settings.mode with _ | _ <;> simp [carry, hm, Frame.payload?]

/-- What a link sends carries what it was asked for, and the command connection is up. -/
lemma of_ask {l : Link} {action : Action} {f : Frame} (h : l.ask action = .ok f) :
    l.command = .up ∧ f = l.carry action := by
  rw [ask] at h
  split at h
  · cases h
  · split at h
    · cases h
    · rcases hline : l.command <;> rw [hline] at h <;> simp_all [Line.obstacle?]

end SharedTerminal.Client.Link

namespace SharedTerminal.Network

/-! ## Both connections -/

/-- The connections of a link, in the order in which they are opened. -/
inductive Wire where
  /-- The status connection. -/
  | status
  /-- The command connection. -/
  | command
deriving DecidableEq, Repr

namespace Wire

/-- The number of a connection. -/
def number : Wire → Nat
  | status => 0
  | command => 1

/-- The name of the peer at its far end. -/
def far (w : Wire) : String := farName w.number

/-- Who has the near end. -/
def party (owner : Owner) : Wire → Party
  | status => .status owner
  | command => .command owner

/-- How the connection stands, as the link knows it. -/
def line : Wire → Client.Link → Client.Line
  | status => Client.Link.status
  | command => Client.Link.command

/-- The link after it has heard a frame. -/
def hear : Wire → Client.Link → Frame → Client.Link
  | status => Client.Link.hearStatus
  | command => Client.Link.hearCommand

/-- The link after it has lost the connection. -/
def lose : Wire → Client.Link → Client.Link
  | status => Client.Link.loseStatus
  | command => Client.Link.loseCommand

lemma far_inj {w v : Wire} : w.far = v.far ↔ w = v := by
  refine ⟨fun h => ?_, fun h => h ▸ rfl⟩
  cases w <;> cases v
  · rfl
  · exact absurd h (by decide)
  · exact absurd h (by decide)
  · rfl

/-- Nothing is heard on a connection that is not up. -/
lemma hear_of_ne_up {w : Wire} {l : Client.Link} (h : w.line l ≠ .up) (f : Frame) :
    w.hear l f = l := by
  cases w
  · exact if_pos h
  · exact if_pos h

lemma lose_of_ne_up {w : Wire} {l : Client.Link} (h : w.line l ≠ .up) : w.lose l = l := by
  cases w
  · exact if_neg h
  · exact if_neg h

/-- A connection is up for the link until it hears that it is closed. -/
lemma line_hear {w v : Wire} {l : Client.Link} {f : Frame} (h : v.line (w.hear l f) = .up) :
    v.line l = .up ∧ (v = w → f.isClose = false) := by
  cases w with
  | status =>
    obtain ⟨status, changes, hlink, hstatus⟩ := Client.Link.hearStatus_cases l f
    rw [hear, hlink] at h
    cases v with
    | status => exact ⟨(hstatus h).1, fun _ => (hstatus h).2⟩
    | command => exact ⟨h, fun hvw => nomatch hvw⟩
  | command =>
    rw [hear, Client.Link.hearCommand_eq] at h
    by_cases hup : l.command = .up
    · cases v with
      | status =>
        refine ⟨?_, fun hvw => nomatch hvw⟩
        cases f <;>
          simpa [hup, Frame.payload?, Client.Link.takeOutput_eq, Frame.isClose, line] using h
      | command =>
        refine ⟨hup, fun _ => ?_⟩
        cases f with
        | close reason => simp [hup, Frame.payload?, Frame.isClose, line] at h
        | _ => rfl
    · rw [if_neg hup] at h
      cases v with
      | status => exact ⟨h, fun hvw => nomatch hvw⟩
      | command => exact absurd h hup

/-- A connection that is lost is not up. -/
lemma line_lose {w v : Wire} {l : Client.Link} (h : v.line (w.lose l) = .up) :
    v.line l = .up ∧ v ≠ w := by
  by_cases hup : w.line l = .up
  · cases w <;> cases v <;>
      simp_all [lose, line, Client.Link.loseStatus, Client.Link.loseCommand]
  · rw [lose_of_ne_up hup] at h
    refine ⟨h, ?_⟩
    rintro rfl
    exact hup h

end Wire

/-! ## The far ends -/

/-- The data that a peer has seen. -/
def Peer.data (p : Peer) : List Frame :=
  p.arrivals.filterMap fun
    | .frame f => if f.payload?.isSome then some f else none
    | .ended => none

/-- A peer that is there sees the data of a frame. -/
lemma Peer.data_see (p : Peer) (f : Frame) :
    (p.see f).data = p.data ++ if p.up && f.payload?.isSome then [f] else [] := by
  rcases hup : p.up with _ | _
  · simp [see, hup]
  · cases f <;> simp [see, hup, data, Frame.payload?]
    rcases p.closing with _ | _ <;> rfl

lemma Peer.canSend_see (p : Peer) (f : Frame) :
    (p.see f).canSend = (p.canSend && !f.isClose) := by
  rcases hup : p.up with _ | _
  · simp [see, hup, canSend]
  · cases f <;> simp [see, hup, canSend, Frame.isClose]

@[simp] lemma Peer.wire_see (p : Peer) (f : Frame) : (p.see f).wire = p.wire := by
  rcases hup : p.up with _ | _
  · simp [see, hup]
  · cases f <;> simp [see, hup]

/-- A peer that has said something. -/
def Peer.say (p : Peer) (f : Frame) : Peer := { p with closing := p.closing || f.isClose }

/-- Whether the far end of a connection can talk. -/
def talks (net : Network) (w : Wire) : Bool := (net.peers.lookup w.far).any Peer.canSend

variable {net : Network} {name : String} {attempt : Attempt} {told : List Frame} {now : Nat}
  {w v : Wire} {f : Frame}

lemma lookup_onPeer (net : Network) (w v : Wire) (g : Peer → Peer) :
    (net.onPeer w.far g).peers.lookup v.far =
      if v = w then (net.peers.lookup v.far).map g else net.peers.lookup v.far := by
  simp only [onPeer, lookup_update, Wire.far_inj]

/-- A stand-in joined with one link, of a name.  The attempt to open the link is known, and so are
the frames with data that were sent on the command connection, as long as its far end is there. -/
structure IsJoined (net : Network) (name : String) (attempt : Attempt) (told : List Frame)
    (now : Nat) : Prop where
  /-- A stand-in lets everyone in. -/
  daemon : net.daemon = .standIn false
  /-- There is no other client. -/
  program : net.program = none
  /-- The time is known. -/
  clock : net.clock = now
  /-- The connections have their numbers. -/
  wires : net.wires = [.status (.named name), .command (.named name)]
  /-- There is no other link. -/
  attempts : net.attempts = [(.named name, attempt)]
  /-- Each far end has its number. -/
  number : ∀ w p, net.peers.lookup (Wire.far w) = some p → p.wire = w.number
  /-- What the far end of the command connection was sent. -/
  told : ∀ p, net.peers.lookup Wire.command.far = some p → p.data = told

/-- Moreover, whatever the link can hear the far end can say. -/
structure IsLinked (net : Network) (name : String) (attempt : Attempt) (told : List Frame)
    (now : Nat) : Prop
    extends IsJoined net name attempt told now where
  /-- The far end of a connection that is up can talk. -/
  talks : ∀ w, w.line attempt.link = .up → net.talks w = true

namespace IsJoined

lemma onAttempt (h : IsJoined net name attempt told now) (g : Attempt → Attempt) :
    IsJoined { net with attempts := update net.attempts (.named name) g } name (g attempt) told
      now := by
  refine ⟨h.daemon, h.program, h.clock, h.wires, ?_, h.number, h.told⟩
  simp [h.attempts, update]

lemma onLink (h : IsJoined net name attempt told now) (g : Client.Link → Client.Link) :
    IsJoined (net.onLink (.named name) g) name { attempt with link := g attempt.link } told now :=
  h.onAttempt fun attempt => { attempt with link := g attempt.link }

/-- A far end that keeps its number changes.  The data that was sent to that of the command
connection may grow. -/
lemma onPeer (h : IsJoined net name attempt told now) (w : Wire) {g : Peer → Peer}
    (hwire : ∀ p, (g p).wire = p.wire) {more : List Frame}
    (hcommand : w = .command →
      ∀ p, net.peers.lookup Wire.command.far = some p → (g p).data = told ++ more)
    (hstatus : w = .status → more = []) :
    IsJoined (net.onPeer w.far g) name attempt (told ++ more) now := by
  refine ⟨h.daemon, h.program, h.clock, h.wires, h.attempts, fun v p hp => ?_, fun p hp => ?_⟩
  · rw [lookup_onPeer] at hp
    split at hp
    · obtain ⟨q, hq, rfl⟩ := Option.map_eq_some_iff.1 hp
      rw [hwire]
      exact h.number v q hq
    · exact h.number v p hp
  · rw [lookup_onPeer] at hp
    split at hp
    · next hw =>
      obtain ⟨q, hq, rfl⟩ := Option.map_eq_some_iff.1 hp
      exact hcommand hw.symm q hq
    · next hw =>
      have hw : w = .status := by
        cases w
        · rfl
        · exact absurd rfl hw
      rw [hstatus hw, List.append_nil]
      exact h.told p hp

lemma sendDaemon_eq (h : IsJoined net name attempt told now) (w : Wire) (f : Frame) :
    net.sendDaemon w.number f = net.onPeer w.far fun p => p.see f := by
  rw [Network.sendDaemon, h.daemon]
  rfl

/-- A frame without data is nothing to note for the daemon's side. -/
lemma sendDaemon (h : IsJoined net name attempt told now) (w : Wire) (hf : f.payload? = none) :
    IsJoined (net.sendDaemon w.number f) name attempt told now := by
  have hsame : ∀ p : Peer, (p.see f).data = p.data := by
    intro p
    rw [Peer.data_see, hf]
    simp
  rw [h.sendDaemon_eq]
  have hjoined : IsJoined (net.onPeer w.far fun p => p.see f) name attempt (told ++ []) now :=
    h.onPeer w (fun p => p.wire_see f)
      (fun _ p hp => by rw [hsame, h.told p hp, List.append_nil]) fun _ => rfl
  rwa [List.append_nil] at hjoined

lemma talks_sendDaemon (h : IsJoined net name attempt told now) (w v : Wire) (f : Frame) :
    (net.sendDaemon w.number f).talks v = (net.talks v && !(v = w && f.isClose)) := by
  rw [h.sendDaemon_eq, Network.talks, Network.talks, lookup_onPeer]
  by_cases hv : v = w
  · rcases net.peers.lookup v.far with _ | p <;> simp [hv, Peer.canSend_see]
  · simp [hv]

/-- Questions are answered as long as the link reads. -/
lemma answerDaemon (h : IsJoined net name attempt told now) (w : Wire) (f : Frame) :
    IsJoined (net.answerDaemon w.number (.named name) w.line f) name attempt told now ∧
      ∀ v, (net.answerDaemon w.number (.named name) w.line f).talks v = net.talks v := by
  cases f with
  | ping bytes =>
    rw [Network.answerDaemon]
    split
    · refine ⟨h.sendDaemon w rfl, fun v => ?_⟩
      rw [h.talks_sendDaemon]
      simp [Frame.isClose]
    · exact ⟨h, fun _ => rfl⟩
  | _ => exact ⟨h, fun _ => rfl⟩

lemma sendClient (h : IsJoined net name attempt told now) (w : Wire) (f : Frame) :
    IsJoined (net.sendClient w.number f) name
        { attempt with link := w.hear attempt.link f } told now ∧
      ∀ v, (net.sendClient w.number f).talks v = net.talks v := by
  have heq : net.sendClient w.number f =
      (net.answerDaemon w.number (.named name) w.line f).onLink (.named name)
        fun l => w.hear l f := by
    cases w <;> simp [Network.sendClient, h.wires, Wire.number] <;> rfl
  obtain ⟨hjoined, htalks⟩ := h.answerDaemon w f
  rw [heq]
  exact ⟨hjoined.onLink _, htalks⟩

lemma loseClient_eq (h : IsJoined net name attempt told now) (w : Wire) :
    net.loseClient w.number = net.onLink (.named name) w.lose := by
  cases w <;> simp [Network.loseClient, h.wires, Wire.number] <;> rfl

end IsJoined

namespace IsLinked

/-! ## What the daemon's side does -/

/-- Where the far end cannot talk, the connection is not up for the link. -/
lemma line_ne_up (h : IsLinked net name attempt told now) (hw : net.talks w = false) :
    w.line attempt.link ≠ .up := by
  intro hup
  rw [h.talks w hup] at hw
  cases hw

/-- The link hears what the daemon's side says, if it hears anything at all. -/
lemma send (h : IsLinked net name attempt told now) (w : Wire) (f : Frame) :
    IsLinked (net.send w.far f).1 name { attempt with link := w.hear attempt.link f } told now := by
  -- A far end that cannot talk says nothing, and the link would not have heard it.
  have hquiet : net.talks w = false → (net.send w.far f).1 = net →
      IsLinked (net.send w.far f).1 name { attempt with link := w.hear attempt.link f } told
        now := by
    intro hquiet hsame
    rw [Wire.hear_of_ne_up (h.line_ne_up hquiet), hsame]
    exact h
  rcases hp : net.peers.lookup w.far with _ | p
  · exact hquiet (by simp [Network.talks, hp]) (by simp [Network.send, hp])
  rcases hcan : p.canSend with _ | _
  · exact hquiet (by simp [Network.talks, hp, hcan]) (by simp [Network.send, hp, hcan])
  have hjoined : IsJoined (net.onPeer w.far fun p => p.say f) name attempt (told ++ []) now :=
    h.toIsJoined.onPeer w (g := fun p => p.say f) (fun _ => rfl)
      (fun _ p hp => by rw [List.append_nil]; exact h.told p hp) fun _ => rfl
  rw [List.append_nil] at hjoined
  obtain ⟨hnext, htalks⟩ := hjoined.sendClient w f
  have heq : (net.send w.far f).1 =
      (net.onPeer w.far fun p => p.say f).sendClient w.number f := by
    have hcarry : (net.onPeer w.far fun p => p.say f).carryFrom p.wire f =
        (net.onPeer w.far fun p => p.say f).sendClient w.number f := by
      rw [carryFrom, hjoined.daemon, h.number w p hp]
    have hdaemon := hnext.daemon
    cases f <;> simp_all [Network.send, Peer.say, Frame.isClose]
  rw [heq]
  refine ⟨hnext, fun v hv => ?_⟩
  obtain ⟨hup, hclose⟩ := Wire.line_hear hv
  have hbefore := h.talks v hup
  rw [htalks, Network.talks, lookup_onPeer]
  by_cases hvw : v = w
  · subst hvw
    simpa [Network.talks, hp, Peer.canSend, Peer.say, hclose rfl] using hbefore
  · rw [if_neg hvw]
    exact hbefore

/-- If the far end of a connection goes away, the connection is lost. -/
lemma cut (h : IsLinked net name attempt told now) (w : Wire) :
    IsLinked (net.cut w.far).1 name { attempt with link := w.lose attempt.link } told now := by
  rcases hp : net.peers.lookup w.far with _ | p
  · have hsame : (net.cut w.far).1 = net := by simp [Network.cut, hp]
    rw [Wire.lose_of_ne_up (h.line_ne_up (by simp [Network.talks, hp])), hsame]
    exact h
  let rest : Network := { net with peers := net.peers.filter fun entry => entry.1 != w.far }
  have hrest : ∀ v, rest.peers.lookup v.far = if v = w then none else net.peers.lookup v.far := by
    intro v
    simp only [rest, lookup_filter_ne, Wire.far_inj]
  have hjoined : IsJoined rest name attempt told now := by
    refine ⟨h.daemon, h.program, h.clock, h.wires, h.attempts, fun v q hq => ?_, fun q hq => ?_⟩
    · rw [hrest] at hq
      split at hq
      · cases hq
      · exact h.number v q hq
    · rw [hrest] at hq
      split at hq
      · cases hq
      · exact h.told q hq
  have htalks : ∀ v, v ≠ w → rest.talks v = net.talks v := by
    intro v hv
    rw [Network.talks, hrest, if_neg hv]
    rfl
  rcases hup : p.up with _ | _
  · have hsame : (net.cut w.far).1 = rest := by
      simp [Network.cut, hp, hup, rest]
    have hdown : w.line attempt.link ≠ .up :=
      h.line_ne_up (by simp [Network.talks, hp, Peer.canSend, hup])
    rw [Wire.lose_of_ne_up hdown, hsame]
    refine ⟨hjoined, fun v hv => ?_⟩
    have hne : v ≠ w := by
      rintro rfl
      exact hdown hv
    exact (htalks v hne).trans (h.talks v hv)
  · have heq : (net.cut w.far).1 = rest.onLink (.named name) w.lose := by
      rw [← hjoined.loseClient_eq]
      simp [Network.cut, hp, hup, rest, h.daemon, h.number w p hp]
    rw [heq]
    refine ⟨hjoined.onLink w.lose, fun v hv => ?_⟩
    obtain ⟨hstill, hne⟩ := Wire.line_lose hv
    exact (htalks v hne).trans (h.talks v hstill)

end IsLinked

/-! ## What becomes of the attempt -/

/-- An attempt after it was decided at a time, if it could be. -/
def Attempt.decided (a : Attempt) (now : Nat) : Attempt :=
  match a.result, a.outcome now with
  | none, some (.ok ()) => { a with result := some (.ok ()) }
  | none, some (.error e) => { a with link := a.link.close, result := some (.error e) }
  | _, _ => a

namespace Attempt

variable {a : Attempt}

/-- What can be told of an attempt at a time, if nothing was told before. -/
lemma outcome_eq (a : Attempt) (h : a.result = none) (now : Nat) :
    a.outcome now = a.link.opening.or
      (if a.deadline ≤ now then some (.error (.timeout a.link.settings.readyTimeout))
      else none) := by
  rw [outcome, h]
  rcases a.link.opening with _ | r <;> rfl

/-- What becomes of an attempt of which nothing was told before. -/
lemma decided_eq (a : Attempt) (h : a.result = none) (now : Nat) :
    a.decided now =
      match a.outcome now with
      | some (.ok ()) => { a with result := some (.ok ()) }
      | some (.error e) => { a with link := a.link.close, result := some (.error e) }
      | none => a := by
  rw [decided, h]
  rcases a.outcome now with _ | e | u <;> rfl

/-- An attempt that was decided stays as it is. -/
lemma decided_of_isSome (h : a.result.isSome = true) (now : Nat) : a.decided now = a := by
  obtain ⟨r, hr⟩ := Option.isSome_iff_exists.1 h
  rw [decided, hr]

lemma decided_decided (a : Attempt) (now : Nat) :
    (a.decided now).decided now = a.decided now := by
  rcases hr : a.result with _ | r
  · rw [a.decided_eq hr]
    rcases ho : a.outcome now with _ | e | u
    · rw [a.decided_eq hr, ho]
    · exact decided_of_isSome rfl now
    · exact decided_of_isSome rfl now
  · simp [decided, hr]

/-- Deciding an attempt changes neither what was asked for nor until when. -/
lemma settings_decided (a : Attempt) (now : Nat) :
    (a.decided now).link.settings = a.link.settings ∧ (a.decided now).deadline = a.deadline := by
  unfold decided
  split
  · exact ⟨rfl, rfl⟩
  · exact ⟨rfl, rfl⟩
  · exact ⟨rfl, rfl⟩

end Attempt

namespace IsJoined

lemma wireOf?_eq (h : IsJoined net name attempt told now) (w : Wire) :
    net.wireOf? (w.party (.named name)) = some w.number := by
  rw [wireOf?, h.wires]
  cases w <;> simp [Wire.party, Wire.number]

lemma lookup_attempts (h : IsJoined net name attempt told now) :
    net.attempts.lookup (.named name) = some attempt := by
  simp [h.attempts]

/-- The link closes a connection. -/
lemma hangUp (h : IsJoined net name attempt told now) (w : Wire) (line : Client.Line) :
    IsJoined (net.hangUp (w.party (.named name)) line true) name attempt told now := by
  rw [Network.hangUp, h.wireOf?_eq]
  rcases hc : canClose line with _ | _
  · simpa [hc] using h
  · simpa [hc] using h.sendDaemon w rfl

lemma endLink (h : IsJoined net name attempt told now) :
    IsLinked (net.endLink (.named name) true) name { attempt with link := attempt.link.close } told
      now := by
  rw [Network.endLink, h.lookup_attempts]
  have hcommand := h.hangUp .command attempt.link.command
  have hstatus := hcommand.hangUp .status attempt.link.status
  refine ⟨hstatus.onLink Client.Link.close, fun w hw => ?_⟩
  cases w <;> cases hw

end IsJoined

namespace IsLinked

/-- What can be told of an attempt is noted, and a link that cannot be used is closed. -/
lemma decide (h : IsLinked net name attempt told now) :
    IsLinked (net.decide (.named name)) name (attempt.decided now) told now := by
  have hnow : attempt.outcome net.clock = attempt.outcome now := by rw [h.clock]
  rw [Network.decide, h.lookup_attempts]
  rcases hr : attempt.result with _ | r
  · rcases ho : attempt.outcome now with _ | r
    · simp only [hr, hnow, ho, Attempt.decided]
      exact h
    · rcases r with e | u
      · have hended := h.endLink.onAttempt fun a => { a with result := some (.error e) }
        simp only [hr, hnow, ho, Attempt.decided]
        refine ⟨hended, fun w hw => ?_⟩
        cases w <;> cases hw
      · have hnoted := h.toIsJoined.onAttempt fun a => { a with result := some (.ok u) }
        simp only [hr, hnow, ho, Attempt.decided]
        exact ⟨hnoted, h.talks⟩
  · simp only [hr, Attempt.decided]
    exact h

/-- The daemon's side does not speak by itself, and there is no program. -/
lemma round (h : IsLinked net name attempt told now) :
    IsLinked net.round name (attempt.decided now) told now := by
  have hspeak : net.speak = net := by rw [speak, h.daemon]
  have hround : net.round = net.decide (.named name) := by
    rw [Network.round, hspeak]
    simp only [h.attempts, List.map_cons, List.map_nil, List.foldl_cons, List.foldl_nil]
    rw [advanceProgram, h.decide.program]
  rw [hround]
  exact h.decide

lemma settle (h : IsLinked net name attempt told now) :
    IsLinked net.settle name (attempt.decided now) told now := by
  -- The first round decides, and the others find nothing to do.
  have hrounds : ∀ n {net : Network}, IsLinked net name (attempt.decided now) told now →
      IsLinked (rounds n net) name (attempt.decided now) told now := by
    intro n
    induction n with
    | zero => exact id
    | succ n ih =>
      intro net hnet
      have hround := hnet.round
      rw [Attempt.decided_decided] at hround
      exact ih hround
  exact hrounds 7 h.round

lemma waitUntil (h : IsLinked net name attempt told now) (time : Nat) :
    IsLinked (net.waitUntil time) name (attempt.decided (max now time)) told (max now time) := by
  have hlater : IsLinked { net with clock := max net.clock time } name attempt told
      (max now time) :=
    ⟨⟨h.daemon, h.program, by rw [h.clock], h.wires, h.attempts, h.number, h.told⟩, h.talks⟩
  exact hlater.settle

/-! ## What the owner of the link does -/

/-- Whoever waits for the link has it then. -/
lemma awaitLink (h : IsLinked net name attempt told now) :
    let later := if attempt.result.isSome then now else max now attempt.deadline
    IsLinked (net.awaitLink name).1 name { attempt.decided later with held := true } told later ∧
      (net.awaitLink name).2 = (attempt.decided later).result := by
  intro later
  have hwaited : IsLinked (if attempt.result.isSome then net else net.waitUntil attempt.deadline)
      name (attempt.decided later) told later := by
    by_cases hr : attempt.result.isSome = true
    · simp only [later, if_pos hr, Attempt.decided_of_isSome hr]
      exact h
    · simp only [later, if_neg hr]
      exact h.waitUntil attempt.deadline
  rw [Network.awaitLink, h.lookup_attempts]
  simp only
  generalize (if attempt.result.isSome = true then net else net.waitUntil attempt.deadline) =
    waited at hwaited ⊢
  have hheld := hwaited.onAttempt fun a => { a with held := true }
  refine ⟨⟨hheld, hwaited.talks⟩, ?_⟩
  rw [resultOf?, hheld.lookup_attempts]
  rfl

lemma held?_eq_some (h : IsLinked net name attempt told now) (hheld : attempt.held = true)
    (hok : attempt.result = some (.ok ())) (hopen : attempt.link.command ≠ .shut) :
    net.held? name = some attempt.link := by
  rcases attempt with ⟨link, deadline, result, held⟩
  simp only at hheld hok hopen
  subst hheld hok
  simp [held?, h.lookup_attempts, hopen]

/-- Nobody has a link that cannot be used. -/
lemma held?_cases (h : IsLinked net name attempt told now) :
    net.held? name = none ∨
      net.held? name = some attempt.link ∧ attempt.result = some (.ok ()) := by
  rcases attempt with ⟨link, deadline, result, held⟩
  rw [held?, h.lookup_attempts]
  split
  · next hok =>
    simp only [Option.some.injEq, Attempt.mk.injEq] at hok
    obtain ⟨rfl, -, rfl, -⟩ := hok
    split
    · exact Or.inl rfl
    · exact Or.inr ⟨rfl, rfl⟩
  · exact Or.inl rfl

/-- Data that the link sends arrives at the far end of the command connection. -/
lemma sendData (h : IsLinked net name attempt told now) (hup : attempt.link.command = .up)
    (hf : f.payload?.isSome = true) :
    IsLinked (net.sendDaemon Wire.command.number f) name attempt (told ++ [f]) now := by
  have hcan : net.talks .command = true := h.talks .command hup
  have hdata : ∀ p, net.peers.lookup Wire.command.far = some p → (p.see f).data = told ++ [f] := by
    intro p hp
    have hpup : p.up = true := by
      simp only [Network.talks, hp, Option.any_some, Peer.canSend, Bool.and_eq_true] at hcan
      exact hcan.1
    rw [Peer.data_see, h.told p hp, hpup, hf]
    rfl
  have hjoined := h.toIsJoined.onPeer .command (g := fun p => p.see f) (fun p => p.wire_see f)
    (fun _ => hdata) fun hw => nomatch hw
  have hopen : f.isClose = false := by
    cases f with
    | close reason => cases hf
    | _ => rfl
  refine ⟨by rw [h.sendDaemon_eq]; exact hjoined, fun v hv => ?_⟩
  rw [h.talks_sendDaemon, h.talks v hv, hopen]
  simp

/-- Nothing is asked on a link that is not in anyone's hands. -/
lemma ask_of_not_held (hheld : net.held? name = none) (action : Action) :
    net.ask name action = (net, none) := by
  rw [Network.ask, hheld]

/-- What the link denies changes nothing. -/
lemma ask_of_denied (hheld : net.held? name = some attempt.link) {action : Action}
    {e : Client.Error} (hask : attempt.link.ask action = .error e) :
    net.ask name action = (net, some (.error e)) := by
  rw [Network.ask, hheld]
  simp only [hask]

/-- What is asked is sent if the link can send it. -/
lemma ask_of_held (h : IsLinked net name attempt told now)
    (hheld : net.held? name = some attempt.link) (action : Action) :
    (net.ask name action).2 = some ((attempt.link.ask action).map fun _ => ()) ∧
      IsLinked (net.ask name action).1 name attempt
        (told ++ (attempt.link.ask action).toOption.toList) now := by
  have hwire : net.wireOf? (.command (.named name)) = some Wire.command.number :=
    h.wireOf?_eq .command
  rw [Network.ask, hheld]
  simp only [hwire]
  rcases hask : attempt.link.ask action with e | f
  · exact ⟨rfl, by simpa [Except.toOption] using h⟩
  · obtain ⟨hup, hf⟩ := Client.Link.of_ask hask
    exact ⟨rfl, h.sendData hup (by rw [hf]; exact Client.Link.isSome_payload?_carry _ _)⟩

/-- What is granted arrives at the far end, and nothing with it. -/
lemma exists_data_of_ask (h : IsLinked net name attempt told now)
    (hheld : net.held? name = some attempt.link) {action : Action}
    (hask : attempt.link.ask action = .ok (attempt.link.carry action)) :
    (net.ask name action).2 = some (.ok ()) ∧
      ∃ p, (net.ask name action).1.peers.lookup Wire.command.far = some p ∧
        p.data = told ++ [attempt.link.carry action] := by
  obtain ⟨hanswer, hnext⟩ := h.ask_of_held hheld action
  rw [hask] at hanswer hnext
  refine ⟨hanswer, ?_⟩
  have htalks : (net.ask name action).1.talks .command = true :=
    hnext.talks .command (Client.Link.of_ask hask).1
  rcases hp : (net.ask name action).1.peers.lookup Wire.command.far with _ | p
  · rw [Network.talks, hp] at htalks
    cases htalks
  · exact ⟨p, rfl, hnext.told p hp⟩

end IsLinked

end SharedTerminal.Network
