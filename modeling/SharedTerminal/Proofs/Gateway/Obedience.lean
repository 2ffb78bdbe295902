import SharedTerminal.Proofs.Gateway.Hearing

/-!
# Whom the engine obeys

The visitor that drives is obeyed as long as it has the slot of the driver, and its connection lasts
until one of three things ends it (`ends`).  What makes no sense is passed over, and so is all that
comes from somebody else.

What a visitor asks for is told by what holds when its frame is heard (`asked`), so one lemma about
a single event (`IsOrderly.toldFor_eq_asked`) and that the connection lasts until it is ended
(`IsOrderly.listensTo_meet`) give the whole run.  The main statement is `engine_hears_its_driver`.
-/

namespace SharedTerminal.Gateway

open Session (Channel)

variable {g : Gateway} {k n i : Nat} {drives : Bool} {mode : Mode} {f : Frame}

/-! ## A visitor of a terminal -/

/-- Whether an event ends the connection of a visitor to a session: the connection is closed, it
fails, or the visitor drives and asks for something when the session has ended. -/
def ends (drives : Bool) (k n : Nat) (g : Gateway) : Event → Bool
  | .hears j f =>
    j = k && (f.isClose || drives && f.command?.isSome && (g.hub.session n).isDestroyed)
  | .goes (.happens op _) _ => op.isDepartureOf k
  | .goes (.speaks _) _ => false

/-- Whether one of a list of events does. -/
def endsIn (drives : Bool) (k n : Nat) (g : Gateway) : List Event → Bool
  | [] => false
  | e :: events => ends drives k n g e || endsIn drives k n (g.meet e) events

/-- What a visitor asks for in an event, if it has the slot of the driver. -/
def asked (k n : Nat) (g : Gateway) : Event → List Engine.Command
  | .hears j f =>
    if j = k ∧ (g.hub.session n).driver?.map Channel.id = some (channelName k) then
      f.command?.toList
    else []
  | .goes _ _ => []

/-- What a visitor that drives asks for in a list of events while it has the slot of the driver and
until its connection ends. -/
def askedIn (k n : Nat) (g : Gateway) : List Event → List Engine.Command
  | [] => []
  | e :: events =>
    if ends true k n g e then [] else asked k n g e ++ askedIn k n (g.meet e) events

/-- What it comes to when the gateway hears a visitor of a terminal. -/
lemma IsOrderly.hearing_eq (h : IsOrderly g)
    (hk : g.purposes[k]? = some (.terminal n i drives mode)) (hl : g.listensTo k = true)
    (f : Frame) :
    g.hearing k f =
      if f.isClose then [.departs k]
      else match drives, f.action? with
        | true, some action => .demands k n action ::
            if (g.hub.session n).isDestroyed then [.departs k] else []
        | _, _ => [] := by
  obtain ⟨visit, hvisit, hp⟩ := Option.map_eq_some_iff.1 (by simpa [purposes] using hk)
  have hlistening : visit.listening = true := by simpa [listensTo, hvisit] using hl
  rw [(h.isSound_session n).isDestroyed_eq]
  rcases hf : f.isClose with _ | _
  · rcases drives with _ | _
    · simp [hearing, hvisit, hlistening, hf, hp]
    · rcases ha : f.action? with _ | action <;> simp [hearing, hvisit, hlistening, hf, hp, ha]
  · simp [hearing, hvisit, hlistening, hf]

/-- **The connection of a visitor to a session lasts until an event ends it.** -/
theorem IsOrderly.listensTo_meet (h : IsOrderly g)
    (hk : g.purposes[k]? = some (.terminal n i drives mode)) (e : Event) :
    (g.meet e).listensTo k = (g.listensTo k && !ends drives k n g e) := by
  have hlength : k < g.visits.length := by
    rw [← length_purposes]
    exact (List.getElem?_eq_some_iff.1 hk).1
  cases e with
  | goes t ht =>
    cases t with
    | happens op hop =>
      rw [Gateway.meet, listensTo_turn hlength]
      simp [steps, ends]
    | speaks j =>
      rw [Gateway.meet, listensTo_turn hlength, steps, isDepartureOf_speaking hk, ends]
  | hears j f =>
    by_cases hjk : j = k
    · subst hjk
      rcases hl : g.listensTo j with _ | _
      · rw [Gateway.meet, hear_eq_play, hearing_of_not_listensTo hl, play_nil, hl, Bool.false_and]
      · rw [Gateway.meet, hear_eq_play, h.hearing_eq hk hl, ends]
        rcases hf : f.isClose with _ | _
        · rcases drives with _ | _
          · simp [hl]
          · rcases ha : f.action? with _ | action
            · simp [hl, Frame.command?, ha]
            · rcases hd : (g.hub.session n).isDestroyed with _ | _ <;>
                simp [hl, Frame.command?, ha, listensTo_departs, listensTo_demands]
        · simp [listensTo_departs]
    · rw [Gateway.meet, listensTo_hear_of_ne hjk]
      simp [ends, hjk]

lemma IsOrderly.listensTo_host (h : IsOrderly g)
    (hk : g.purposes[k]? = some (.terminal n i drives mode)) (events : List Event) :
    (g.host events).listensTo k = (g.listensTo k && !endsIn drives k n g events) := by
  induction events generalizing g with
  | nil => simp [endsIn]
  | cons e events ih =>
    rw [host_cons, ih (h.meet e) (purposes_meet hk e), h.listensTo_meet hk, endsIn, Bool.not_or,
      Bool.and_assoc]

/-! ## What an engine is told for one visitor -/

lemma toldFor_hears (k n : Nat) (g : Gateway) (f : Frame) :
    toldFor k n g [.hears k f] =
      (g.hub.session n).grantedIn (deeds n g (g.hearing k f)) := by
  simp [toldFor, toldIn, told, List.filter_map, Function.comp_def]

lemma toldFor_hears_of_ne {j : Nat} (hjk : j ≠ k) (n : Nat) (g : Gateway) (f : Frame) :
    toldFor k n g [.hears j f] = [] := by
  simp [toldFor, toldIn, told, List.filter_map, Function.comp_def, hjk]

lemma toldFor_goes (k n : Nat) (g : Gateway) (t : Turn) (ht : t.asks = false) :
    toldFor k n g [.goes t ht] = [] := rfl

/-- Only when a visitor is heard something is told for it. -/
lemma toldFor_eq_nil_of_hears (hears : ∀ f, toldFor k n g [.hears k f] = []) (e : Event) :
    toldFor k n g [e] = [] := by
  cases e with
  | goes t ht => exact toldFor_goes k n g t ht
  | hears j f =>
    by_cases hjk : j = k
    · subst hjk
      exact hears f
    · exact toldFor_hears_of_ne hjk n g f

/-- Of what it comes to when a visitor is heard, only the request may be granted. -/
lemma grantedIn_demands (g : Gateway) (k n : Nat) (action : Action) {rest : List Turn}
    (hrest : ∀ t ∈ rest, t.asks = false) :
    (g.hub.session n).grantedIn (deeds n g (.demands k n action :: rest)) =
      (g.hub.session n).granted (demand k action) := by
  have hopsOn : opsOn n g (g.steps (.demands k n action)) = [demand k action] := by
    simp [steps, Turn.demands, opsOn, opOn?]
  rw [deeds, hopsOn, Session.grantedIn_append, grantedIn_deeds hrest, List.append_nil]
  simp [Session.grantedIn]

lemma asks_departs (k : Nat) : ∀ t ∈ [Turn.departs k], t.asks = false := by
  simp [Turn.departs, Turn.asks, Operation.asks]

/-- What the engine is told when a visitor of a terminal is heard. -/
lemma IsOrderly.toldFor_hears_eq (h : IsOrderly g)
    (hk : g.purposes[k]? = some (.terminal n i drives mode)) (f : Frame) :
    toldFor k n g [.hears k f] =
      match g.listensTo k && drives, f.action? with
      | true, some action => (g.hub.session n).granted (demand k action)
      | _, _ => [] := by
  rw [toldFor_hears]
  rcases hl : g.listensTo k with _ | _
  · simp [hearing_of_not_listensTo hl, deeds, Session.grantedIn]
  rw [h.hearing_eq hk hl]
  rcases hf : f.isClose with _ | _
  · rcases drives with _ | _
    · simp [deeds, Session.grantedIn]
    · rcases ha : f.action? with _ | action
      · simp [deeds, Session.grantedIn]
      · rcases hd : (g.hub.session n).isDestroyed with _ | _
        · simpa using grantedIn_demands g k n action (List.forall_mem_nil _)
        · simpa using grantedIn_demands g k n action (asks_departs k)
  · simpa [Frame.action?_of_isClose hf] using grantedIn_deeds (asks_departs k) (g.hub.session n)

/-- A visitor that drives is obeyed while it has the slot of the driver. -/
lemma IsOrderly.toldFor_eq_asked (h : IsOrderly g)
    (hk : g.purposes[k]? = some (.terminal n i true mode)) (hl : g.listensTo k = true)
    (hheeded : (g.hub.session n).isHeeded = true) (e : Event) :
    toldFor k n g [e] = if ends true k n g e then [] else asked k n g e := by
  cases e with
  | goes t ht => simp [toldFor_goes, asked]
  | hears j f =>
    by_cases hjk : j = k
    · subst hjk
      have hs := h.isSound_session n
      rw [h.toldFor_hears_eq hk, hl, ends, asked]
      rcases ha : f.action? with _ | action
      · simp [Frame.command?, ha]
      · have hf : f.isClose = false := by
          rw [← Bool.not_eq_true]
          intro hf
          simp [Frame.action?_of_isClose hf] at ha
        have hdemand := request?_demand j action
        rcases hd : (g.hub.session n).isDestroyed with _ | _
        · simp [Frame.command?, ha, hf, hs.granted_eq hd hheeded hdemand]
        · simp [Frame.command?, ha, hf, Session.granted_of_request? hdemand, hs.request_eq, hd]
    · simp [toldFor_hears_of_ne hjk, asked, hjk]

/-- A visitor on whose seat nobody drives is not obeyed. -/
lemma IsOrderly.toldFor_eq_nil (h : IsOrderly g)
    (hk : g.purposes[k]? = some (.terminal n i drives mode))
    (hseat : (g.hub.session n).HasBystander i (channelName k)) (e : Event) :
    toldFor k n g [e] = [] := by
  obtain ⟨hn, -⟩ := h.numbered.held k (.seat n i) (by simp [hk, Purpose.spot?])
  refine toldFor_eq_nil_of_hears (fun f => ?_) e
  rw [h.toldFor_hears_eq hk]
  split
  · exact hseat.granted_eq_nil (h.isSound_session n) (h.numbered.names n hn).nodup
      (request?_demand k _)
  · rfl

/-- What a client sends for an action is told to the engine, if the client's visitor has the slot of
the driver. -/
lemma IsOrderly.toldFor_carry (h : IsOrderly g)
    (hk : g.purposes[k]? = some (.terminal n i true mode)) (hl : g.listensTo k = true)
    (hheeded : (g.hub.session n).isHeeded = true)
    (hholds : (g.hub.session n).driver?.map Channel.id = some (channelName k))
    (link : Client.Link) (action : Action) :
    toldFor k n g [.hears k (link.carry action)] = [action.toCommand] := by
  have hcommand := link.command?_carry action
  have hf : (link.carry action).isClose = false := by
    rw [← Bool.not_eq_true]
    intro hf
    simp [Frame.command?, Frame.action?_of_isClose hf] at hcommand
  have hends : ends true k n g (.hears k (link.carry action)) = false := by
    simp [ends, hf, (h.isSound_session n).isDestroyed_of_driver hholds]
  rw [h.toldFor_eq_asked hk hl hheeded, hends, if_neg Bool.false_ne_true, asked,
    if_pos ⟨rfl, hholds⟩, hcommand, Option.toList_some]

/-- A request that changes nothing in the session changes nothing at the gateway. -/
lemma turn_demands_eq_self {action : Action}
    (hsame : (g.hub.session n).step (demand k action) = g.hub.session n) :
    g.turn (.demands k n action) = g := by
  have hhub : g.hub.step (.on n (demand k action)) = g.hub := by
    change g.hub.put n ((g.hub.session n).step (demand k action)) = g.hub
    rw [hsame, Hub.put_session]
  change { g with hub := g.hub.step (.on n (demand k action)) } = g
  rw [hhub]

/-- **What makes no sense is passed over**, and so is what comes from a visitor that does not drive,
or does no more while the session goes on.  The connection goes on, and nothing changes. -/
theorem IsOrderly.hear_eq_self (h : IsOrderly g)
    (hk : g.purposes[k]? = some (.terminal n i drives mode)) (hf : f.isClose = false)
    (hidle : f.command? = none ∨ drives = false ∨ (g.hub.session n).isDestroyed = false ∧
      (g.hub.session n).driver?.map Channel.id ≠ some (channelName k)) :
    g.hear k f = g := by
  rw [hear_eq_play]
  rcases hl : g.listensTo k with _ | _
  · rw [hearing_of_not_listensTo hl, play_nil]
  rw [h.hearing_eq hk hl, hf, if_neg Bool.false_ne_true]
  rcases ha : f.action? with _ | action
  · simp
  rcases drives with _ | _
  · simp
  obtain hnone | hdrives | ⟨hlive, hother⟩ := hidle
  · simp [Frame.command?, ha] at hnone
  · cases hdrives
  · have hsame := (h.isSound_session n).step_of_lost hlive (request?_demand k action) hother
    simp [hlive, turn_demands_eq_self hsame]

/-! ## Whole runs -/

lemma IsOrderly.toldFor_of_not_listensTo (h : IsOrderly g)
    (hk : g.purposes[k]? = some (.terminal n i drives mode)) (hl : g.listensTo k = false)
    (events : List Event) : toldFor k n g events = [] := by
  induction events generalizing g with
  | nil => rfl
  | cons e events ih =>
    have hnext : (g.meet e).listensTo k = false := by rw [h.listensTo_meet hk, hl, Bool.false_and]
    have hnow : toldFor k n g [e] = [] := by
      refine toldFor_eq_nil_of_hears (fun f => ?_) e
      rw [h.toldFor_hears_eq hk, hl]
      rfl
    rw [toldFor_cons, hnow, ih (h.meet e) (purposes_meet hk e) hnext, List.append_nil]

/-- What the engine is told for a visitor that drives is what the visitor asks for while it has the
slot of the driver, until its connection ends. -/
lemma IsOrderly.toldFor_eq_askedIn (h : IsOrderly g)
    (hk : g.purposes[k]? = some (.terminal n i true mode)) (hl : g.listensTo k = true)
    (events : List Event) (hheeded : ((g.host events).hub.session n).isHeeded = true) :
    toldFor k n g events = askedIn k n g events := by
  induction events generalizing g with
  | nil => rfl
  | cons e events ih =>
    obtain ⟨hn, -⟩ := h.numbered.held k (.seat n i) (by simp [hk, Purpose.spot?])
    have hnow : (g.hub.session n).isHeeded = true := by
      rw [(h.session_host hn (e :: events)).1] at hheeded
      exact (h.isSound_session n).isHeeded_of_run hheeded
    have hnext := h.listensTo_meet hk e
    rw [hl, Bool.true_and] at hnext
    rw [toldFor_cons, h.toldFor_eq_asked hk hl hnow, askedIn]
    rcases he : ends true k n g e with _ | _
    · rw [he] at hnext
      simp [ih (h.meet e) (purposes_meet hk e) hnext hheeded]
    · rw [he] at hnext
      simp [(h.meet e).toldFor_of_not_listensTo (purposes_meet hk e) hnext]

/-- Whoever does not drive is not obeyed at any later time either. -/
lemma IsOrderly.toldFor_of_bystander (h : IsOrderly g)
    (hk : g.purposes[k]? = some (.terminal n i drives mode))
    (hseat : (g.hub.session n).HasBystander i (channelName k)) (events : List Event) :
    toldFor k n g events = [] := by
  induction events generalizing g with
  | nil => rfl
  | cons e events ih =>
    obtain ⟨hn, -⟩ := h.numbered.held k (.seat n i) (by simp [hk, Purpose.spot?])
    have hnext : ((g.meet e).hub.session n).HasBystander i (channelName k) := by
      rw [(h.session_meet hn e).1]
      exact hseat.run (h.isSound_session n) _
    rw [toldFor_cons, h.toldFor_eq_nil hk hseat, ih (h.meet e) (purposes_meet hk e) hnext,
      List.append_nil]

/-- Whoever has lost the slot of the driver is not obeyed at any later time. -/
lemma IsOrderly.toldFor_of_lost (h : IsOrderly g)
    (hk : g.purposes[k]? = some (.terminal n i drives mode)) {seat : Session.Seat}
    (hseat : (g.hub.session n).seats[i]? = some seat) (hid : seat.channel.id = channelName k)
    (during after : List Event)
    (hlost : ((g.host during).hub.session n).driver?.map Channel.id ≠ some (channelName k)) :
    toldFor k n (g.host during) after = [] := by
  obtain ⟨hn, -⟩ := h.numbered.held k (.seat n i) (by simp [hk, Purpose.spot?])
  have hlater := h.host during
  obtain ⟨next, hnext, hsame⟩ :=
    (h.isSound_session n).exists_seat_run hseat (deeds n g (g.turnsIn during))
  rw [← (h.session_host hn during).1] at hnext
  rw [hid] at hsame
  have hbystander := (hlater.isSound_session n).hasBystander hnext (hsame ▸ hlost)
  rw [hsame] at hbystander
  exact hlater.toldFor_of_bystander (purposes_host hk during) hbystander after

/-- **The engine hears its driver, and nobody else.**  Whoever comes to a terminal is heard while
anything else goes on at the gateway: others come, are heard and go, and engines report.  As long as
the engine of the session takes commands, what it receives is what waited for it, then what it was
told for one visitor or another, in order, and the command to stop if the session has ended.

For a visitor that drives, it is told one command for each well-formed envelope that comes while the
visitor has the slot of the driver, until the connection is closed, fails, or has an envelope when
the session has ended.  For one that only watches it is told nothing, and for one that has lost the
slot nothing from then on.  The connection lasts until it is ended in one of these ways.  Every other
frame leaves the gateway as it was.

What a client sends for a command line, in either framing, comes as the line and its end. -/
theorem engine_hears_its_driver (settings : Settings) (before events : List Event) (path : String)
    (starts : Except Session.Error Unit) (logCapacity : Option Nat) (capacity n i : Nat)
    (drives : Bool) (mode : Mode)
    (hvisit : (((idle settings).host before).step
        (.arrive path starts logCapacity capacity)).visits[((idle settings).host
          before).visits.length]? = some ⟨.terminal n i drives mode, true, true⟩)
    (hheeded : (((((idle settings).host before).step
        (.arrive path starts logCapacity capacity)).host events).hub.session n).isHeeded = true) :
    let k := ((idle settings).host before).visits.length
    let arrived := ((idle settings).host before).step (.arrive path starts logCapacity capacity)
    let last := arrived.host events
    let s := arrived.hub.session n
    let ops := deeds n arrived (arrived.turnsIn events)
    let holds := fun g : Gateway => (g.hub.session n).driver?.map Channel.id = some (channelName k)
    (∃ context readOnly, Endpoint.parse path = .ok (.command context mode readOnly) ∧
      (readOnly = true → drives = false)) ∧
    last.hub.session n = s.run ops ∧
    s.received ops = s.inbox ++ (toldIn n arrived events).map Prod.snd ++
      (if (s.run ops).isDestroyed && (s.run ops).process.isSome then [.shutdown] else []) ∧
    toldFor k n arrived events = (if drives then askedIn k n arrived events else []) ∧
    (∀ during after, events = during ++ after → ¬ holds (arrived.host during) →
      toldFor k n (arrived.host during) after = []) ∧
    last.listensTo k = !endsIn drives k n arrived events ∧
    (∀ f : Frame, f.isClose = false →
      f.command? = none ∨ drives = false ∨
        (last.hub.session n).isDestroyed = false ∧ ¬ holds last →
      last.hear k f = last) ∧
    (∀ (link : Client.Link) (line : String), link.settings.readOnly = false → link.ready = true →
      link.command = .up → ∃ f, link.ask (.command line) = .ok f ∧
        f.command? = some (.input (utf8 (line ++ "\n"))) ∧
        (drives = true → last.listensTo k = true → holds last →
          toldFor k n last [.hears k f] = [.input (utf8 (line ++ "\n"))])) := by
  intro k arrived last s ops holds
  have hbefore : IsOrderly ((idle settings).host before) := (isOrderly_idle settings).host before
  have harrived : IsOrderly arrived :=
    hbefore.turn (.happens (.arrive path starts logCapacity capacity) rfl)
  have hlast : IsOrderly last := harrived.host events
  obtain ⟨lasts, hkept⟩ := hbefore.kept
  have hk : arrived.purposes[k]? = some (.terminal n i drives mode) := by
    simp [arrived, purposes, k, hvisit]
  have hl : arrived.listensTo k = true := by simp [listensTo, arrived, k, hvisit]
  obtain ⟨e, he, -, ⟨hn, -, hlive⟩, hanswer, hnext⟩ := hkept.exists_of_arrive hvisit rfl
  obtain ⟨hi, hattaches, context, readOnly, rfl⟩ := attaches_of_answer hanswer
  have hs : s.IsSound true := harrived.isSound_session n
  have hseat : s.seats[i]? = some ⟨roleOf drives, .fresh (channelName k) capacity⟩ := by
    rw [hi, show s = _ from hnext]
    exact hattaches.getElem?_step
  obtain ⟨hrun, -⟩ := harrived.session_host hn events
  refine ⟨⟨context, readOnly, he, ?_⟩, hrun, ?_, ?_, ?_, ?_, ?_, ?_⟩
  · rintro rfl
    have hrole := Session.Attaches.role_of_attachObserver hattaches
    cases drives with
    | false => rfl
    | true => cases hrole
  · have hall := hs.received_eq ops (hrun ▸ hheeded)
    rw [show s.isDestroyed = false from hlive, harrived.grantedIn_turnsIn hn] at hall
    exact hall
  · cases drives with
    | true => exact harrived.toldFor_eq_askedIn hk hl events hheeded
    | false => exact harrived.toldFor_of_bystander hk ⟨_, hseat, rfl, by simp [roleOf]⟩ events
  · rintro during after rfl hlost
    exact harrived.toldFor_of_lost hk hseat rfl during after hlost
  · rw [harrived.listensTo_host hk, hl, Bool.true_and]
  · exact fun f hf hidle => hlast.hear_eq_self (purposes_host hk events) hf hidle
  · intro link line hdrives hready hup
    refine ⟨_, Client.Link.ask_eq_carry hdrives hready hup _, link.command?_carry _, ?_⟩
    rintro rfl hlistens hholds
    exact hlast.toldFor_carry (purposes_host hk events) hlistens hheeded hholds link _

/-- The first visitor sends what makes no sense and then a command line, leaves, and sends another
command line. -/
def requests : List Event :=
  [.hears 0 (.ping []), .hears 0 (.text "ls"), .hears 0 (.text (Action.command "ls").toJson),
    .hears 0 (.close none), .hears 0 (.text (Action.command "pwd").toJson)]

/-- The engine is told the first command line, and only that. -/
theorem engine_hears_command_line :
    opened.visits[0]? = some ⟨.terminal 0 0 true .text, true, true⟩ ∧
      ((opened.host requests).hub.session 0).isHeeded = true ∧
      toldFor 0 0 opened requests = [.input (utf8 "ls\n")] := by
  have hvisit : opened.visits[0]? = some ⟨.terminal 0 0 true .text, true, true⟩ := by decide
  have hheeded : ((opened.host requests).hub.session 0).isHeeded = true := by decide +kernel
  obtain ⟨-, -, -, htold, -⟩ := engine_hears_its_driver usual [] requests "/socket/text/x" (.ok ())
    none 4 0 0 true .text hvisit hheeded
  have hasked : askedIn 0 0 opened requests = [.input (utf8 "ls\n")] := by decide +kernel
  exact ⟨hvisit, hheeded, htold.trans hasked⟩

end SharedTerminal.Gateway
