import SharedTerminal.Proofs.Envelope.RoundTrip
import SharedTerminal.Proofs.Network.Stage
import Mathlib.Data.List.Forall2

/-!
# When a link can be used

A link that drives waits for a ready marker: a frame that has nothing else as its data.  It can be
used from the moment at which one comes, if that is before the deadline and before the command
connection ends; if the connection ends first, or the deadline passes, it never can be, and it is
closed without that anything was sent.  A link that only watches can be used at once, and never
sends anything.

What was sent is what was granted (`stage_play`), one frame for each action, from whose data the
action can be read again (`carries_carry`); and nothing is granted to who waits or only watches.
The main statement is `link_opens_on_marker`.
-/

namespace SharedTerminal.Network

open Client (Link Settings)

/-- A link with a name that is being opened at a stand-in. -/
def opening (address name : String) (settings : Settings) : Network :=
  ((fresh address (.standIn false)).openLink (.named name) settings).settle

/-- The frames with data that the far end of the command connection was sent, as long as it is
there. -/
def HasSent (net : Network) (sent : List Frame) : Prop :=
  ∀ p, net.peers.lookup Wire.command.far = some p → p.data = sent

/-- Whether a frame carries an action: its kind is that of the mode, and the action is read from its
data. -/
def Carries (mode : Mode) (action : Action) (f : Frame) : Prop :=
  match mode with
  | .text => ∃ text, f = .text text ∧ Action.ofBytes (utf8 text) = .ok action
  | .binary => ∃ data, f = .binary data ∧ Action.ofBytes data = .ok action

/-- What is asked for and granted when something happens. -/
def grants (net : Network) (name : String) : Event → List Action
  | .ask action =>
    match (net.ask name action).2 with
    | some (.ok ()) => [action]
    | _ => []
  | _ => []

/-- What was asked for and granted. -/
def granted (net : Network) (name : String) : List Event → List Action
  | [] => []
  | e :: events => net.grants name e ++ granted (net.happen name e) name events

variable {net start : Network} {name : String} {settings : Settings} {attempt : Attempt}
  {told : List Frame} {now : Nat} {events : List Event} {e : Event} {l : Link}

/-! ## The run -/

lemma granted_concat (net : Network) (name : String) (events : List Event) (e : Event) :
    net.granted name (events ++ [e]) =
      net.granted name events ++ (net.play name events).grants name e := by
  induction events generalizing net with
  | nil => simp [granted, play]
  | cons first events ih =>
    rw [List.cons_append, granted, ih, granted, List.append_assoc]
    rfl

/-- The settings tell how an action is carried. -/
lemma carry_eq (h : l.settings = settings) : l.carry = (Link.opened settings).carry := by
  funext action
  rw [Link.carry, Link.carry, h]
  rfl

/-- A link sends each action in a frame that carries it. -/
lemma carries_carry (settings : Settings) (action : Action) :
    Carries settings.mode action ((Link.opened settings).carry action) := by
  have hread := action.ofBytes_toJson
  rcases hmode : settings.mode with _ | _
  · exact ⟨action.toJson, by rw [Link.carry, Link.opened, hmode], hread⟩
  · exact ⟨utf8 action.toJson, by rw [Link.carry, Link.opened, hmode], hread⟩

/-- The frames for some actions carry them, one each and in their order. -/
lemma forall₂_carries (settings : Settings) (actions : List Action) :
    List.Forall₂ (Carries settings.mode) actions (actions.map (Link.opened settings).carry) :=
  List.forall₂_map_right_iff.2 (List.forall₂_same.2 fun action _ => carries_carry settings action)

/-- What is granted is sent. -/
lemma IsLinked.ask_grants (h : IsLinked net name attempt told now) (action : Action) :
    IsLinked (net.ask name action).1 name attempt
      (told ++ (net.grants name (.ask action)).map attempt.link.carry) now := by
  rcases h.held?_cases with hheld | ⟨hheld, -⟩
  · rw [grants, IsLinked.ask_of_not_held hheld]
    simpa using h
  · obtain ⟨hanswer, hnext⟩ := h.ask_of_held hheld action
    rw [grants, hanswer]
    rcases hask : attempt.link.ask action with e | f
    · simpa [hask, Except.map, Except.toOption] using hnext
    · obtain ⟨-, rfl⟩ := Link.of_ask hask
      simpa [hask, Except.map, Except.toOption] using hnext

/-- What happens to a network happens to the attempt. -/
lemma IsLinked.happen (h : IsLinked net name attempt told now) (he : e ≠ .await) :
    IsLinked (net.happen name e) name
      (({ attempt with link := e.change attempt.link } : Attempt).decided (now + e.lasts))
      (told ++ (net.grants name e).map attempt.link.carry) (now + e.lasts) := by
  cases e with
  | say w f =>
    show IsLinked (net.send w.far f).1.settle name _ (told ++ []) now
    rw [List.append_nil]
    exact (h.send w f).settle
  | cut w =>
    show IsLinked (net.cut w.far).1.settle name _ (told ++ []) now
    rw [List.append_nil]
    exact (h.cut w).settle
  | wait time =>
    have hlater : max now (net.clock + time) = now + time := by
      rw [h.clock]
      exact Nat.max_eq_right (Nat.le_add_right now time)
    have hwaited := h.waitUntil (net.clock + time)
    rw [hlater] at hwaited
    show IsLinked (net.waitUntil (net.clock + time)) name _ (told ++ []) (now + time)
    rw [List.append_nil]
    exact hwaited
  | await => exact absurd rfl he
  | ask action => exact (h.ask_grants action).settle

/-- Nothing is granted before the marker has come, nor to who only watches. -/
lemma Stage.grants_eq_nil (h : Stage start name settings events now attempt)
    (hlinked : IsLinked net name attempt told now) (hsettings : attempt.link.settings = settings)
    (hnot : ¬ Timely start name settings Event.isMarker events ∨
      settings.readOnly = true) (e : Event) : net.grants name e = [] := by
  cases e with
  | ask action =>
    rcases hlinked.held?_cases with hheld | ⟨hheld, hopened⟩
    · rw [grants, IsLinked.ask_of_not_held hheld]
    · obtain ⟨hanswer, -⟩ := hlinked.ask_of_held hheld action
      have hwatches : settings.readOnly = true := by
        cases h with
        | waiting drives undecided => rw [undecided] at hopened; cases hopened
        | usable opened ready => exact ready.elim id fun hr => hnot.elim (absurd hr.2) id
        | closed drives reason =>
          rcases reason with ⟨hr, -⟩ | ⟨hr, -⟩ <;> rw [hr] at hopened <;> cases hopened
      have hdenied : attempt.link.ask action = .error .readOnly := by
        rw [Link.ask, hsettings, if_pos hwatches]
      rw [grants, hanswer, hdenied]
      rfl
  | _ => rfl

/-- **Where things stand.**  At the end of any list of events, what was sent is what was granted. -/
theorem stage_play (hstart : IsLinked start name attempt [] 0)
    (hsettings : attempt.link.settings = settings)
    (hdeadline : attempt.deadline = deadline settings)
    (hstage : Stage start name settings [] 0 attempt) (events : List Event) :
    ∃ attempt now, IsLinked (start.play name events) name attempt
        ((start.granted name events).map (Link.opened settings).carry) now ∧
      attempt.link.settings = settings ∧ attempt.deadline = deadline settings ∧
      Stage start name settings events now attempt ∧
      (¬ Timely start name settings Event.isMarker events ∨ settings.readOnly = true →
        start.granted name events = []) := by
  induction events using List.reverseRecOn with
  | nil => exact ⟨attempt, 0, hstart, hsettings, hdeadline, hstage, fun _ => rfl⟩
  | append_singleton events e ih =>
    obtain ⟨a, now, hlinked, hset, hdead, hst, hnil⟩ := ih
    have hcarry := carry_eq hset
    have hnone : ¬ Timely start name settings Event.isMarker (events ++ [e]) ∨
        settings.readOnly = true → start.granted name (events ++ [e]) = [] := by
      intro hnot
      have hbefore := hnot.imp_left fun hm hearlier => hm (timely_concat.2 (Or.inl hearlier))
      rw [granted_concat, hnil hbefore, hst.grants_eq_nil hlinked hset hbefore e]
      rfl
    rw [play_concat]
    -- Whoever waits lets time pass as far as the deadline; all else takes its own time.
    by_cases he : e = .await
    · subst he
      have hgrants : (start.play name events).grants name .await = [] := rfl
      obtain ⟨hnext, -⟩ := hlinked.awaitLink
      obtain ⟨hstage, -⟩ := hst.await hset hdead
      refine ⟨_, _, ?_, ?_, ?_, hstage.await_concat, hnone⟩
      · rw [granted_concat, hgrants, List.append_nil]
        exact hnext
      · exact (Attempt.settings_decided a _).1.trans hset
      · exact (Attempt.settings_decided a _).2.trans hdead
    · have hnext := hlinked.happen he
      have hstage := hst.step hlinked.clock hset hdead e (Nat.le_add_right now e.lasts)
      refine ⟨_, _, ?_, ?_, ?_, hstage, hnone⟩
      · rw [granted_concat, List.map_append, ← hcarry]
        rw [← hcarry] at hnext
        exact hnext
      · exact (Attempt.settings_decided _ _).1.trans ((settings_change e a.link).trans hset)
      · exact (Attempt.settings_decided _ _).2.trans hdead

/-! ## The start -/

/-- A stand-in lets a link in. -/
lemma isLinked_openLink {address : String}
    (hopen : ((fresh address (.standIn false)).openWires (.named name) settings).2 = .ok ()) :
    IsLinked ((fresh address (.standIn false)).openLink (.named name) settings) name
      ⟨.opened settings, deadline settings, none, false⟩ [] 0 := by
  have hnone : (fresh address (.standIn false)).endLink (.named name) false =
      fresh address (.standIn false) := rfl
  have hpeers : ∀ w : Wire, (assign (assign [] Wire.status.far (Peer.fresh 0)) Wire.command.far
      (Peer.fresh 1)).lookup w.far = some (Peer.fresh w.number) := by
    intro w
    cases w <;> rfl
  obtain ⟨accepted, hwires⟩ : ∃ accepted,
      ((fresh address (.standIn false)).openWires (.named name) settings) =
        (⟨address, .standIn false, [.status (.named name), .command (.named name)],
          assign (assign [] Wire.status.far (Peer.fresh 0)) Wire.command.far (Peer.fresh 1), [],
          none, accepted, false, 0⟩, .ok ()) := by
    rw [openWires] at hopen ⊢
    rcases hstatus : settings.statusUrl with e | statusUrl
    · simp [hstatus] at hopen
    rcases hcommand : settings.commandUrl with e | commandUrl
    · simp [hstatus, hcommand] at hopen
    simp only [hstatus, hcommand] at hopen ⊢
    split at hopen
    · cases hopen
    · next hreach =>
      rw [if_neg hreach]
      exact ⟨_, rfl⟩
  rw [openLink]
  simp only [hnone, hwires]
  refine ⟨⟨rfl, rfl, rfl, rfl, ?_, fun w p hp => ?_, fun p hp => ?_⟩, fun w _ => ?_⟩
  · show [(Owner.named name, (⟨.opened settings, _, none, false⟩ : Attempt))] = _
    rw [fresh, Nat.zero_add]
    rfl
  · obtain rfl := Option.some.inj ((hpeers w).symm.trans hp)
    rfl
  · obtain rfl := Option.some.inj ((hpeers .command).symm.trans hp)
    rfl
  · rw [talks]
    simp only [hpeers]
    rfl

/-- At the start a link waits, or can be used at once, or it is too late at once. -/
lemma stage_nil (start : Network) (name : String) (settings : Settings) :
    Stage start name settings [] 0
      ((⟨.opened settings, deadline settings, none, false⟩ : Attempt).decided 0) :=
  stage_decided rfl rfl rfl rfl (by simp [Link.opened, timely_nil]) (by simp [Link.opened])
    (by simp [Link.opened]) (by simp [timely_nil])

/-! ## The gate -/

/-- What is told of a link that drives follows from what came first. -/
lemma Stage.result_iff (h : Stage start name settings events now attempt)
    (hsome : attempt.result.isSome = true) (hdrives : settings.readOnly = false) :
    (attempt.result = some (.ok ()) ↔
      Timely start name settings Event.isMarker events) ∧
    (attempt.result = some (.error endedEarly) ↔
      Timely start name settings Event.ends events ∧
        ¬ Timely start name settings Event.isMarker events) ∧
    (attempt.result = some (.error (.timeout settings.readyTimeout)) ↔
      ¬ Timely start name settings Event.ends events ∧
        ¬ Timely start name settings Event.isMarker events) := by
  cases h with
  | waiting _ undecided =>
    rw [undecided] at hsome
    cases hsome
  | usable opened ready =>
    have hmarked : Timely start name settings Event.isMarker events := by
      rcases ready with hreads | ⟨-, hmarked⟩
      · rw [hdrives] at hreads
        cases hreads
      · exact hmarked
    simp [opened, hmarked]
  | closed _ reason _ _ unmarked =>
    rcases reason with ⟨hr, hended⟩ | ⟨hr, hended⟩ <;> simp [hr, hended, unmarked, endedEarly]

/-- A link that only watches can be used. -/
lemma Stage.result_of_readOnly (h : Stage start name settings events now attempt)
    (hwatches : settings.readOnly = true) : attempt.result = some (.ok ()) := by
  cases h with
  | usable opened => exact opened
  | waiting drives =>
    rw [hwatches] at drives
    cases drives
  | closed drives =>
    rw [hwatches] at drives
    cases drives

/-- Whoever has a link that can be used has it until they close it. -/
lemma Stage.held?_eq_some (h : Stage start name settings events now attempt)
    (hlinked : IsLinked net name attempt told now) (hheld : attempt.held = true)
    (hok : attempt.result = some (.ok ())) :
    net.held? name = some attempt.link ∧ attempt.link.output = saidIn events ∧
      (attempt.link.command = .up ↔ events.any Event.ends = false) ∧
      (settings.readOnly = false → attempt.link.ready = true) := by
  cases h with
  | waiting _ undecided =>
    rw [undecided] at hok
    cases hok
  | usable _ ready output up_iff unshut =>
    refine ⟨hlinked.held?_eq_some hheld hok unshut, output, up_iff, fun hdrives => ?_⟩
    rcases ready with hreads | ⟨hready, -⟩
    · rw [hdrives] at hreads
      cases hreads
    · exact hready
  | closed _ reason =>
    rcases reason with ⟨hr, -⟩ | ⟨hr, -⟩ <;> rw [hr] at hok <;> cases hok

/-- A link that is ready can send as long as the connection is up. -/
lemma ask_of_ready (hdrives : l.settings.readOnly = false) (hready : l.ready = true)
    (action : Action) :
    l.command = .up ∧ l.ask action = .ok (l.carry action) ∨
      l.command ≠ .up ∧ ∃ reason, l.ask action = .error (.connection reason) := by
  rcases hline : l.command <;> simp [Link.ask, hdrives, hready, hline, Client.Line.obstacle?]

/-- Whoever waits for a link after some events learns what came of it. -/
lemma awaitLink_play {address : String}
    (hopen : ((fresh address (.standIn false)).openWires (.named name) settings).2 = .ok ())
    (events : List Event) :
    let start := opening address name settings
    let sent := (start.granted name events).map (Link.opened settings).carry
    (start.play name events).HasSent sent ∧
    (¬ Timely start name settings Event.isMarker events ∨ settings.readOnly = true →
      start.granted name events = []) ∧
    ∃ attempt now, IsLinked ((start.play name events).awaitLink name).1 name attempt sent now ∧
      ((start.play name events).awaitLink name).2 = attempt.result ∧
      attempt.held = true ∧ attempt.result.isSome = true ∧ attempt.link.settings = settings ∧
      Stage start name settings events now attempt := by
  intro start sent
  have hstart := (isLinked_openLink hopen).settle
  obtain ⟨hset, hdead⟩ :=
    Attempt.settings_decided ⟨.opened settings, deadline settings, none, false⟩ 0
  obtain ⟨a, now, hlinked, hset, hdead, hstage, hnone⟩ :=
    stage_play hstart hset hdead (stage_nil start name settings) events
  obtain ⟨hbridge, hanswer⟩ := hlinked.awaitLink
  obtain ⟨hstage, hsome⟩ := hstage.await hset hdead
  exact ⟨hlinked.told, hnone, _, _, hbridge, hanswer, rfl, hsome,
    (Attempt.settings_decided a _).1.trans hset, hstage⟩

/-- **A link that drives can be used from the marker on.**  After any list of events, whoever waits
for a link has it exactly if a marker came in time and before the command connection ended.
Otherwise nothing was sent, and nothing can be.  What is asked on a link that can be used is sent,
each time in one frame that carries it, as long as the connection has not ended.  A link that only
watches can be used at once, and denies whatever it is asked.  The output of a link that can be used
is what was said on the command connection until it ended, less the markers. -/
theorem link_opens_on_marker (address name : String) (settings : Settings)
    (hopen : ((fresh address (.standIn false)).openWires (.named name) settings).2 = .ok ())
    (events : List Event) :
    let start := opening address name settings
    let net := start.play name events
    let bridge := (net.awaitLink name).1
    let answer := (net.awaitLink name).2
    let marked := Timely start name settings Event.isMarker events
    let ended := Timely start name settings Event.ends events
    let carry := (Link.opened settings).carry
    let sent := (start.granted name events).map carry
    net.HasSent sent ∧
    List.Forall₂ (Carries settings.mode) (start.granted name events) sent ∧
    (settings.readOnly = false →
      (answer = some (.ok ()) ↔ marked) ∧
      (answer = some (.error endedEarly) ↔ ended ∧ ¬ marked) ∧
      (answer = some (.error (.timeout settings.readyTimeout)) ↔ ¬ ended ∧ ¬ marked) ∧
      (¬ marked → sent = [] ∧ ∀ action, bridge.ask name action = (bridge, none)) ∧
      (marked → events.any Event.ends = false → ∀ action,
        (bridge.ask name action).2 = some (.ok ()) ∧
        Carries settings.mode action (carry action) ∧
        ∃ p, (bridge.ask name action).1.peers.lookup Wire.command.far = some p ∧
          p.data = sent ++ [carry action]) ∧
      (marked → events.any Event.ends = true → ∀ action, ∃ reason,
        bridge.ask name action = (bridge, some (.error (.connection reason))))) ∧
    (settings.readOnly = true →
      answer = some (.ok ()) ∧ sent = [] ∧
      ∀ action, bridge.ask name action = (bridge, some (.error .readOnly))) ∧
    (answer = some (.ok ()) → ∃ l, bridge.held? name = some l ∧ l.output = saidIn events) := by
  intro start net bridge answer marked ended carry sent
  obtain ⟨hsent, hnone, a, now, hbridge, hanswer, hheld, hsome, hset, hstage⟩ :=
    awaitLink_play hopen events
  have hanswer : answer = a.result := hanswer
  have hcarry : a.link.carry = carry := carry_eq hset
  have hnothing : ¬ marked ∨ settings.readOnly = true → sent = [] := by
    intro h
    simp only [sent, start, hnone h, List.map_nil]
  refine ⟨hsent, forall₂_carries settings _, fun hdrives => ?_, fun hwatches => ?_,
    fun hok => ?_⟩
  · obtain ⟨hok, hearly, htimeout⟩ := hstage.result_iff hsome hdrives
    rw [hanswer]
    refine ⟨hok, hearly, htimeout, fun hunmarked => ?_, fun hmarked hon action => ?_,
      fun hmarked hoff action => ?_⟩
    · refine ⟨hnothing (Or.inl hunmarked), fun action => IsLinked.ask_of_not_held ?_ action⟩
      exact hbridge.held?_cases.resolve_right fun h => hunmarked (hok.1 h.2)
    · obtain ⟨hhas, -, hup, hready⟩ := hstage.held?_eq_some hbridge hheld (hok.2 hmarked)
      rcases ask_of_ready (hset ▸ hdrives) (hready hdrives) action with
        ⟨-, hask⟩ | ⟨hline, -⟩
      · obtain ⟨hanswered, hdata⟩ := hbridge.exists_data_of_ask hhas hask
        rw [hcarry] at hdata
        exact ⟨hanswered, carries_carry settings action, hdata⟩
      · exact absurd (hup.2 hon) hline
    · obtain ⟨hhas, -, hup, hready⟩ := hstage.held?_eq_some hbridge hheld (hok.2 hmarked)
      rcases ask_of_ready (hset ▸ hdrives) (hready hdrives) action with
        ⟨hline, -⟩ | ⟨-, reason, hask⟩
      · rw [hup.1 hline] at hoff
        cases hoff
      · exact ⟨reason, IsLinked.ask_of_denied hhas hask⟩
  · have hok := hstage.result_of_readOnly hwatches
    obtain ⟨hhas, -⟩ := hstage.held?_eq_some hbridge hheld hok
    refine ⟨hanswer.trans hok, hnothing (Or.inr hwatches), fun action => ?_⟩
    have hask : a.link.ask action = .error .readOnly := by
      rw [Link.ask, hset, if_pos hwatches]
    exact IsLinked.ask_of_denied hhas hask
  · obtain ⟨hhas, houtput, -⟩ := hstage.held?_eq_some hbridge hheld (hanswer.symm.trans hok)
    exact ⟨a.link, hhas, houtput⟩

/-- A marker may come after other output, and may take its time.  The command line that is asked for
then is all that is sent, and it is read from the one frame. -/
theorem link_opens_on_late_marker :
    let settings : Settings := ⟨"ws://localhost:8080", "main", .binary, false, .ofSeconds 10⟩
    let greeting : List Event := [.say .command (.text "hello"), .wait 20]
    let events := greeting ++ [.say .command (.text "% ")]
    let bridge := ((opening settings.base "l" settings).play "l" events).awaitLink "l"
    ((fresh settings.base (.standIn false)).openWires (.named "l") settings).2 = .ok () ∧
      bridge.2 = some (.ok ()) ∧ (bridge.1.ask "l" (.command "ls")).2 = some (.ok ()) ∧
      (∃ p data, (bridge.1.ask "l" (.command "ls")).1.peers.lookup Wire.command.far = some p ∧
        p.data = [.binary data] ∧ Action.ofBytes data = .ok (.command "ls")) ∧
      ∃ l, bridge.1.held? "l" = some l ∧ l.output = [utf8 "hello"] := by
  intro settings greeting events bridge
  have hopen : ((fresh settings.base (.standIn false)).openWires (.named "l") settings).2 =
      .ok () := by
    simp only [settings]
    decide +kernel
  have hclock : ((opening settings.base "l" settings).play "l" greeting).clock <
      deadline settings := by
    simp only [settings, greeting]
    decide +kernel
  have hmarked : Timely (opening settings.base "l" settings) "l" settings
      Event.isMarker events :=
    ⟨greeting, .say .command (.text "% "), [], rfl, by decide, rfl, hclock⟩
  obtain ⟨-, -, hdriver, -, houtput⟩ :=
    link_opens_on_marker settings.base "l" settings hopen events
  obtain ⟨hok, -, -, -, hask, -⟩ := hdriver rfl
  have hanswer := hok.2 hmarked
  obtain ⟨hanswered, ⟨data, hframe, hread⟩, p, hp, hdata⟩ := hask hmarked rfl (.command "ls")
  have hnothing : (opening settings.base "l" settings).granted "l" events = [] := by decide +kernel
  rw [hnothing, hframe] at hdata
  simp only [bridge]
  exact ⟨hopen, hanswer, hanswered, ⟨p, data, hp, hdata, hread⟩, houtput hanswer⟩

end SharedTerminal.Network
