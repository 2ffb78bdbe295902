import SharedTerminal.Client.Link
import SharedTerminal.Proofs.Envelope.RoundTrip
import SharedTerminal.Proofs.Gateway.Speaking
import SharedTerminal.Proofs.Session.Granting

/-!
# What the gateway hears

Frames come from visitors in any order, while others come and go and engines report.  To hear a
frame is to make at most one request in the name of the visitor, and to let go of the visitor if it
leaves or if the session has ended (`hear_eq_play`).  So what an engine receives is, visitor by
visitor, what it was told when a frame was heard (`IsOrderly.grantedIn_turnsIn`).

Visitors are let go of one by one, and of nobody else because of what one of them sends
(`listensTo_hear_of_ne`).
-/

namespace SharedTerminal

/-! ## What a frame asks for -/

/-- What the engine is told for an action. -/
def Action.toCommand : Action → Engine.Command
  | input text => .input (utf8 text)
  | resize cols rows => .resize cols rows

/-- The action in a frame, if its data is a well-formed envelope. -/
def Frame.action? (f : Frame) : Option Action :=
  f.payload?.bind fun payload => (Action.ofBytes payload).toOption

/-- What the engine is to be told for a frame. -/
def Frame.command? (f : Frame) : Option Engine.Command := f.action?.map Action.toCommand

lemma Frame.action?_of_isClose {f : Frame} (hf : f.isClose = true) : f.action? = none := by
  cases f with
  | close reason => rfl
  | _ => simp [isClose] at hf

/-- A client sends what is read as the action that it was asked for, in either framing. -/
lemma Client.Link.command?_carry (l : Link) (action : Action) :
    (l.carry action).command? = some action.toCommand := by
  simp only [carry]
  split <;>
    simp [Frame.command?, Frame.action?, Frame.payload?, Action.ofBytes_toJson, Except.toOption]

/-- A client that drives and is ready sends what it is asked for. -/
lemma Client.Link.ask_eq_carry {l : Link} (hdrives : l.settings.readOnly = false)
    (hready : l.ready = true) (hup : l.command = .up) (action : Action) :
    l.ask action = .ok (l.carry action) := by
  simp [ask, hdrives, hready, hup, Line.obstacle?]

namespace Gateway

open Session (Channel)

variable {g other : Gateway} {k n i : Nat} {drives : Bool} {mode : Mode} {f : Frame}

/-! ## What hearing comes to -/

/-- An action as a request in the name of a visitor. -/
def demand (k : Nat) : Action → Session.Operation
  | .input text => .submit (channelName k) (utf8 text)
  | .resize cols rows => .resize (channelName k) cols rows

lemma request?_demand (k : Nat) (action : Action) :
    (demand k action).request? = some (channelName k, action.toCommand) := by
  cases action <;> rfl

lemma isQuiet_demand (k : Nat) (action : Action) : (demand k action).isQuiet = true := by
  cases action <;> rfl

lemma takes_demand (k : Nat) (action : Action) : (demand k action).takes = false := by
  cases action <;> rfl

/-- A visitor asks for something in a session. -/
def Turn.demands (k n : Nat) (action : Action) : Turn :=
  .happens (.transit n (demand k action) (isQuiet_demand k action)) (takes_demand k action)

/-- A visitor leaves. -/
def Turn.departs (k : Nat) : Turn := .happens (.depart k) rfl

/-- What happens when the gateway hears a frame from a visitor. -/
def hearing (g : Gateway) (k : Nat) (f : Frame) : List Turn :=
  match g.visits[k]? with
  | none => []
  | some visit =>
    if !visit.listening then []
    else if f.isClose then [.departs k]
    else match visit.purpose, f.action? with
      | .terminal n _ true _, some action =>
        .demands k n action ::
          if (g.hub.session n).lifecycle.destroyed then [.departs k] else []
      | _, _ => []

lemma obey_eq_play (g : Gateway) (k n : Nat) (action : Action) :
    g.obey k n action = g.play (.demands k n action ::
      if (g.hub.session n).lifecycle.destroyed then [.departs k] else []) := by
  have hdestroyed := (g.hub.session n).destroyed_of_request (channelName k) action.toCommand
  cases action with
  | input text | resize cols rows =>
    simp only [obey]
    split
    · next hout =>
      rw [if_pos (hdestroyed.1 ⟨_, hout⟩)]
      rfl
    · next hout =>
      rw [if_neg]
      · rfl
      · rw [← hdestroyed]
        rintro ⟨context, heq⟩
        exact hout context heq

lemma exists_of_drives {purpose : Purpose} (h : purpose.drives = true) :
    ∃ n i mode, purpose = .terminal n i true mode := by
  rcases purpose with ⟨n, i, drives, mode⟩ | ⟨n, l⟩ | reason
  · obtain rfl : drives = true := h
    exact ⟨n, i, mode, rfl⟩
  · cases h
  · cases h

/-- A visitor that drives is obeyed where its frame makes sense. -/
lemma hear_of_driving {visit : Visit} (hk : g.visits[k]? = some visit)
    (hl : visit.listening = true) (hp : visit.purpose = .terminal n i true mode)
    (hf : f.isClose = false) :
    g.hear k f = match f.action? with
      | some action => g.obey k n action
      | none => g := by
  cases f with
  | close reason => simp [Frame.isClose] at hf
  | ping bytes | pong bytes => simp [hear, hk, hl, hp, Frame.action?, Frame.payload?]
  | text text =>
    rcases ha : Action.ofBytes (utf8 text) with fault | action <;>
      simp [hear, hk, hl, hp, Frame.action?, Frame.payload?, ha, Except.toOption]
  | binary bytes =>
    rcases ha : Action.ofBytes bytes with fault | action <;>
      simp [hear, hk, hl, hp, Frame.action?, Frame.payload?, ha, Except.toOption]

/-- Nobody else is listened to, but for the end of the connection. -/
lemma hear_of_not_driving {visit : Visit} (hk : g.visits[k]? = some visit)
    (hp : visit.purpose.drives = false) (hf : f.isClose = false) : g.hear k f = g := by
  rcases hpurpose : visit.purpose with ⟨n, i, _ | _, mode⟩ | ⟨n, l⟩ | reason <;>
    cases f <;> simp_all [hear, Frame.isClose, Purpose.drives]

lemma hearing_of_not_driving {visit : Visit} (hk : g.visits[k]? = some visit)
    (hp : visit.purpose.drives = false) (hf : f.isClose = false) : g.hearing k f = [] := by
  rcases hpurpose : visit.purpose with ⟨n, i, _ | _, mode⟩ | ⟨n, l⟩ | reason
  · simp [hearing, hk, hf, hpurpose]
  · simp [hpurpose, Purpose.drives] at hp
  · simp [hearing, hk, hf, hpurpose]
  · simp [hearing, hk, hf, hpurpose]

/-- To hear a frame is to make a request, to let go of a visitor, both, or nothing. -/
lemma hear_eq_play (g : Gateway) (k : Nat) (f : Frame) : g.hear k f = g.play (g.hearing k f) := by
  rcases hk : g.visits[k]? with _ | visit
  · simp [hear, hearing, hk]
  rcases hl : visit.listening with _ | _
  · simp [hear, hearing, hk, hl]
  rcases hf : f.isClose with _ | _
  · rcases hp : visit.purpose.drives with _ | _
    · rw [hear_of_not_driving hk hp hf, hearing_of_not_driving hk hp hf, play_nil]
    · obtain ⟨n, i, mode, hp⟩ := exists_of_drives hp
      rw [hear_of_driving hk hl hp hf]
      rcases ha : f.action? with _ | action
      · simp [hearing, hk, hl, hf, hp, ha]
      · simp [hearing, hk, hl, hf, hp, ha, obey_eq_play]
  · cases f with
    | close reason => simp [hear, hearing, hk, hl, Frame.isClose, Turn.departs, turn, Gateway.step]
    | _ => simp [Frame.isClose] at hf

/-! ## Events -/

/-- Whether the engine is asked for something in a step. -/
def Operation.asks : Operation → Bool
  | .transit _ op _ => op.request?.isSome
  | _ => false

/-- Whether the engine is asked for something in a turn. -/
def Turn.asks : Turn → Bool
  | .happens op _ => op.asks
  | .speaks _ => false

/-- What goes on at a gateway that hears as well. -/
inductive Event where
  /-- A frame comes from the visitor with a number. -/
  | hears (k : Nat) (f : Frame)
  /-- Something else goes on, and nobody asks the engine for anything. -/
  | goes (t : Turn) (ht : t.asks = false)

/-- The gateway after an event. -/
def meet (g : Gateway) : Event → Gateway
  | .hears k f => g.hear k f
  | .goes t _ => g.turn t

/-- The gateway after a list of events. -/
def host (g : Gateway) (events : List Event) : Gateway := events.foldl meet g

@[simp] lemma host_nil (g : Gateway) : g.host [] = g := rfl

@[simp] lemma host_cons (g : Gateway) (e : Event) (events : List Event) :
    g.host (e :: events) = (g.meet e).host events := rfl

/-- What an event comes to. -/
def turnsOf (g : Gateway) : Event → List Turn
  | .hears k f => g.hearing k f
  | .goes t _ => [t]

/-- What a list of events comes to. -/
def turnsIn (g : Gateway) : List Event → List Turn
  | [] => []
  | e :: events => g.turnsOf e ++ turnsIn (g.meet e) events

lemma play_append (g : Gateway) (turns more : List Turn) :
    g.play (turns ++ more) = (g.play turns).play more :=
  List.foldl_append

lemma deeds_append (n : Nat) (g : Gateway) (turns more : List Turn) :
    deeds n g (turns ++ more) = deeds n g turns ++ deeds n (g.play turns) more := by
  induction turns generalizing g with
  | nil => rfl
  | cons t turns ih => simp [deeds, ih]

lemma meet_eq_play (g : Gateway) (e : Event) : g.meet e = g.play (g.turnsOf e) := by
  cases e with
  | hears k f => exact hear_eq_play g k f
  | goes t ht => rfl

lemma host_eq_play (g : Gateway) (events : List Event) :
    g.host events = g.play (g.turnsIn events) := by
  induction events generalizing g with
  | nil => rfl
  | cons e events ih => rw [host_cons, ih, turnsIn, play_append, ← meet_eq_play]

lemma IsOrderly.meet (h : IsOrderly g) (e : Event) : IsOrderly (g.meet e) :=
  meet_eq_play g e ▸ h.play _

lemma IsOrderly.host (h : IsOrderly g) (events : List Event) : IsOrderly (g.host events) :=
  host_eq_play g events ▸ h.play _

lemma IsOrderly.isSound_session (h : IsOrderly g) (n : Nat) : (g.hub.session n).IsSound true := by
  obtain ⟨lasts, hkept⟩ := h.kept
  exact hkept.sound.sessions n

lemma IsOrderly.session_meet (h : IsOrderly g) (hn : n < g.hub.sessions.length) (e : Event) :
    (g.meet e).hub.session n = (g.hub.session n).run (deeds n g (g.turnsOf e)) ∧
      n < (g.meet e).hub.sessions.length := by
  rw [meet_eq_play]
  exact h.session_play hn _

/-- What goes on is, for a session that there is, a list of operations. -/
lemma IsOrderly.session_host (h : IsOrderly g) (hn : n < g.hub.sessions.length)
    (events : List Event) :
    (g.host events).hub.session n = (g.hub.session n).run (deeds n g (g.turnsIn events)) ∧
      n < (g.host events).hub.sessions.length := by
  rw [host_eq_play]
  exact h.session_play hn _

lemma purposes_play (g : Gateway) (turns : List Turn) :
    g.purposes <+: (g.play turns).purposes := by
  induction turns generalizing g with
  | nil => exact List.prefix_refl _
  | cons t turns ih => exact (purposes_turn g t).trans (ih (g.turn t))

/-- What a visitor came for does not change. -/
lemma purposes_meet {purpose : Purpose} (hk : g.purposes[k]? = some purpose) (e : Event) :
    (g.meet e).purposes[k]? = some purpose := by
  obtain ⟨more, hmore⟩ := purposes_play g (g.turnsOf e)
  rw [meet_eq_play, ← hmore, List.getElem?_append_left (List.getElem?_eq_some_iff.1 hk).1, hk]

lemma purposes_host {purpose : Purpose} (hk : g.purposes[k]? = some purpose)
    (events : List Event) : (g.host events).purposes[k]? = some purpose := by
  induction events generalizing g with
  | nil => exact hk
  | cons e events ih => exact ih (purposes_meet hk e)

/-! ## What an engine is told -/

lemma request?_opOn? {op : Operation} {sop : Session.Operation} (hop : op.asks = false)
    (hsop : opOn? n g op = some sop) : sop.request? = none := by
  obtain ⟨_, _, _, _, e, rfl, rfl⟩ | ⟨j, visit, rfl, -, -, rfl⟩ | ⟨event, rfl, rfl⟩ | ⟨hq, rfl⟩ :=
    opOn?_cases hsop
  · rcases e with ⟨_, _, _ | _⟩ | _ <;> rfl
  · rcases visit.purpose with ⟨_, _, _ | _, _⟩ | ⟨_, _⟩ | _ <;> rfl
  · cases event <;> rfl
  · simpa [Operation.asks] using hop

lemma request?_opsOn {ops : List Operation} (hops : ∀ op ∈ ops, op.asks = false) :
    ∀ sop ∈ opsOn n g ops, sop.request? = none := by
  induction ops generalizing g with
  | nil => simp [opsOn]
  | cons op ops ih =>
    obtain ⟨hop, hrest⟩ := List.forall_mem_cons.1 hops
    intro sop hsop
    rw [opsOn, List.mem_append, Option.mem_toList] at hsop
    exact hsop.elim (request?_opOn? hop) (ih hrest sop)

lemma asks_steps {t : Turn} (ht : t.asks = false) : ∀ op ∈ g.steps t, op.asks = false := by
  cases t with
  | happens op hop => simpa [steps, Turn.asks] using ht
  | speaks k =>
    intro op hop
    obtain ⟨visit, -, ⟨n, i, drives, mode, -, rfl⟩ | ⟨n, l, -, rfl⟩ | ⟨-, rfl⟩⟩ :=
      speaking_cases hop <;> rfl

/-- Where nobody asks for anything nothing is granted. -/
lemma grantedIn_deeds {turns : List Turn} (hturns : ∀ t ∈ turns, t.asks = false) (s : Session) :
    s.grantedIn (deeds n g turns) = [] := by
  induction turns generalizing g s with
  | nil => rfl
  | cons t turns ih =>
    obtain ⟨ht, hrest⟩ := List.forall_mem_cons.1 hturns
    rw [deeds, Session.grantedIn_append, ih hrest, List.append_nil]
    exact Session.grantedIn_eq_nil (request?_opsOn (asks_steps ht)) s

/-- What the engine of a session is told in an event, and for whom. -/
def told (n : Nat) (g : Gateway) : Event → List (Nat × Engine.Command)
  | .hears k f => ((g.hub.session n).grantedIn (deeds n g (g.hearing k f))).map (k, ·)
  | .goes _ _ => []

/-- What the engine of a session is told in a list of events, and for whom. -/
def toldIn (n : Nat) (g : Gateway) : List Event → List (Nat × Engine.Command)
  | [] => []
  | e :: events => told n g e ++ toldIn n (g.meet e) events

/-- What is granted in a session is what its engine is told for one visitor or another. -/
lemma IsOrderly.grantedIn_turnsIn (h : IsOrderly g) (hn : n < g.hub.sessions.length)
    (events : List Event) :
    (g.hub.session n).grantedIn (deeds n g (g.turnsIn events)) =
      (toldIn n g events).map Prod.snd := by
  induction events generalizing g with
  | nil => rfl
  | cons e events ih =>
    obtain ⟨hsession, hlength⟩ := h.session_meet hn e
    have htold : (g.hub.session n).grantedIn (deeds n g (g.turnsOf e)) =
        (told n g e).map Prod.snd := by
      cases e with
      | hears k f => simp [turnsOf, told, Function.comp_def]
      | goes t ht => exact grantedIn_deeds (by simpa [turnsOf] using ht) _
    rw [turnsIn, deeds_append, Session.grantedIn_append, ← hsession, ← meet_eq_play, htold,
      ih (h.meet e) hlength, toldIn, List.map_append]

/-- What the engine of a session is told for one visitor in a list of events. -/
def toldFor (k n : Nat) (g : Gateway) (events : List Event) : List Engine.Command :=
  ((toldIn n g events).filter (·.1 = k)).map Prod.snd

lemma toldFor_cons (k n : Nat) (g : Gateway) (e : Event) (events : List Event) :
    toldFor k n g (e :: events) = toldFor k n g [e] ++ toldFor k n (g.meet e) events := by
  simp [toldFor, toldIn]

/-! ## Whom the gateway listens to -/

lemma listensTo_of_muted (heq : other.muted = g.muted) : other.listensTo k = g.listensTo k := by
  have hlistening : ∀ g : Gateway, g.listensTo k = g.muted.visits[k]?.any Visit.listening := by
    intro g
    rw [listensTo, muted, List.getElem?_map, Option.any_map]
    rfl
  rw [hlistening other, hlistening g, heq]

lemma listensTo_evolve (hk : k < g.visits.length) (ops : List Operation) :
    (g.evolve ops).listensTo k = (g.listensTo k && !ops.any (Operation.isDepartureOf k)) := by
  induction ops generalizing g with
  | nil => simp
  | cons op ops ih =>
    rw [evolve_cons, ih (Nat.lt_of_lt_of_le hk (length_visits_step g op)), listensTo_step hk,
      List.any_cons, Bool.not_or, Bool.and_assoc]

lemma listensTo_turn (hk : k < g.visits.length) (t : Turn) :
    (g.turn t).listensTo k = (g.listensTo k && !(g.steps t).any (Operation.isDepartureOf k)) := by
  rw [listensTo_of_muted (muted_turn g t), listensTo_evolve hk]

/-- Whoever came to a terminal is not let go of by what is written, to itself or to others. -/
lemma isDepartureOf_speaking (hk : g.purposes[k]? = some (.terminal n i drives mode)) (j : Nat) :
    (g.speaking j).any (Operation.isDepartureOf k) = false := by
  rw [List.any_eq_false]
  intro op hop
  obtain ⟨visit, hvisit, ⟨m, seat, _, _, -, rfl⟩ | ⟨m, l, -, rfl⟩ | ⟨hother, rfl⟩⟩ :=
    speaking_cases hop
  · simp [Operation.isDepartureOf]
  · simp [Operation.isDepartureOf]
  · have hne : j ≠ k := by
      rintro rfl
      exact hother n i drives mode (by simpa [purposes, hvisit] using hk)
    simpa [Operation.isDepartureOf] using hne

lemma hearing_of_not_listensTo (hl : g.listensTo k = false) (f : Frame) : g.hearing k f = [] := by
  rcases hk : g.visits[k]? with _ | visit
  · simp [hearing, hk]
  · have hlistening : visit.listening = false := by simpa [listensTo, hk] using hl
    simp [hearing, hk, hlistening]

lemma listensTo_departs (g : Gateway) (j k : Nat) :
    (g.turn (.departs j)).listensTo k = (g.listensTo k && j ≠ k) :=
  listensTo_depart g j k

lemma listensTo_demands (g : Gateway) (j n k : Nat) (action : Action) :
    (g.turn (.demands j n action)).listensTo k = g.listensTo k := rfl

/-- What is heard from one visitor does not end the connection of another. -/
lemma listensTo_hear_of_ne {j : Nat} (hjk : j ≠ k) (g : Gateway) (f : Frame) :
    (g.hear j f).listensTo k = g.listensTo k := by
  rw [hear_eq_play, hearing]
  split
  · rfl
  · split
    · rfl
    · split
      · simp [listensTo_departs, hjk]
      · split
        · split <;> simp [listensTo_departs, listensTo_demands, hjk]
        · rfl

end Gateway

end SharedTerminal
