import SharedTerminal.Proofs.Gateway.Keeping

/-!
# How visitors come in

A visitor that asks for an endpoint does one thing to the session of the context: `entry` names it,
and `attempt_eq` says that this is all that an attempt to let somebody in does, with the answer of
the session for an outcome.  An attempt fails only for a driver whose engine cannot be started, and
then no session is registered for the context any more (`IsKept.of_attempt_eq_error`).  So a second
attempt never helps, and it does nothing to the sessions that there were
(`IsKept.persist_attempt`).
-/

namespace SharedTerminal.Gateway

open Session (Channel)

variable {g : Gateway} {lasts : Nat → Option Task.Status} {e : Endpoint} {m n : Nat}

/-! ## One attempt -/

/-- The sessions that there were are the same after one was found or created. -/
lemma session_findOrCreate {hub : Hub} (h : hub.IsSound) (context : String)
    (hn : n < hub.sessions.length) :
    (hub.findOrCreate context).1.session n = hub.session n := by
  rcases hfound : hub.find? context with _ | m
  · rw [h.findOrCreate_of_none hfound, Hub.session_append, if_neg (by omega)]
  · rw [Hub.findOrCreate_of_some hfound]

/-- What a visitor that asks for an endpoint does to the session of the context, with a channel. -/
def entry (startup : Session.Startup) (c : Channel) : Endpoint → Session.Operation
  | .command _ _ readOnly => if readOnly then .attachObserver c else .attachDriver c startup
  | .status _ => .subscribe

/-- What a visitor gets from a session that has a number. -/
def answer (startup : Session.Startup) (c : Channel) (n : Nat) (s : Session) :
    Endpoint → Except Session.Error Purpose
  | .command _ mode readOnly =>
    if readOnly then (s.attachObserver c).2.map fun _ => .terminal n s.seats.length false mode
    else (s.attachDriver c startup).2.map fun a => .terminal n s.seats.length (a = .driving) mode
  | .status _ => s.subscribe.2.map (.news n)

/-- Tries to let somebody in that asks for an endpoint. -/
def attempt (g : Gateway) : Endpoint → Hub × Except Session.Error Purpose
  | .command context mode readOnly => g.seatIn context mode readOnly
  | .status context => g.subscribeTo context

/-- The channel of the next visitor. -/
def nextChannel (g : Gateway) : Channel :=
  .fresh (channelName g.visits.length) g.settings.capacity

lemma attempt_eq (hstart : ∀ events, g.settings.hub.start = .ok events → events = [])
    (e : Endpoint) :
    let found := g.hub.findOrCreate e.context
    let s := found.1.session found.2
    ∃ processes files, g.attempt e =
      ({ found.1.step (.on found.2 (entry g.settings.hub.startup g.nextChannel e)) with
          processes := processes, files := files },
        answer g.settings.hub.startup g.nextChannel found.2 s e) := by
  cases e with
  | command context mode readOnly =>
    cases readOnly with
    | true => exact ⟨_, _, rfl⟩
    | false =>
      obtain ⟨processes, files, heq⟩ := attachDriver_eq (g.hub.findOrCreate context).1 hstart
        (g.hub.findOrCreate context).2 g.nextChannel
      exact ⟨processes, files, congrArg (fun r : Hub × Except Session.Error Session.Attachment =>
        (r.1, r.2.map _)) heq⟩
  | status context => exact ⟨_, _, rfl⟩

/-- An attempt leaves every session that lives with a use. -/
lemma IsKept.attempt (h : IsKept lasts g)
    (hstart : ∀ events, g.settings.hub.start = .ok events → events = []) (e : Endpoint) :
    KeepsAll lasts g (g.attempt e) := by
  cases e with
  | command context mode readOnly => exact h.seatIn hstart context mode readOnly
  | status context => exact h.subscribeTo context

/-- Of the sessions that there were, an attempt touches the one that is found. -/
lemma IsKept.session_attempt (h : IsKept lasts g)
    (hstart : ∀ events, g.settings.hub.start = .ok events → events = []) (e : Endpoint)
    (hn : n < g.hub.sessions.length) :
    (g.attempt e).1.session n =
      if g.hub.find? e.context = some n then
        (g.hub.session n).step (entry g.settings.hub.startup g.nextChannel e)
      else g.hub.session n := by
  obtain ⟨processes, files, heq⟩ := attempt_eq hstart e
  rw [heq]
  change (Hub.step _ _).session n = _
  rcases hfound : g.hub.find? e.context with _ | m
  · -- The session that is found is new, and not one of those that there were.
    rw [h.sound.findOrCreate_of_none hfound, if_neg (by simp),
      Hub.session_on_of_ne (by simp; omega), Hub.session_append, if_neg (by omega)]
  · rw [Hub.findOrCreate_of_some hfound]
    by_cases hm : m = n
    · subst hm
      rw [if_pos rfl, Hub.session_on hn]
    · rw [if_neg (by simpa using hm), Hub.session_on_of_ne (Ne.symm hm)]

lemma length_findOrCreate (hub : Hub) (context : String) :
    hub.sessions.length ≤ (hub.findOrCreate context).1.sessions.length := by
  unfold Hub.findOrCreate
  split
  · exact Nat.le_refl _
  · simp [Hub.create]

/-- Sessions are only ever added. -/
lemma length_attempt (hstart : ∀ events, g.settings.hub.start = .ok events → events = [])
    (e : Endpoint) : g.hub.sessions.length ≤ (g.attempt e).1.sessions.length := by
  obtain ⟨processes, files, heq⟩ := attempt_eq hstart e
  rw [heq]
  exact Nat.le_trans (length_findOrCreate g.hub e.context) (Nat.le_of_eq (Hub.length_on _ _ _).symm)

/-- A session that an attempt creates is new but for what the visitor does to it. -/
lemma IsKept.session_attempt_of_le (h : IsKept lasts g)
    (hstart : ∀ events, g.settings.hub.start = .ok events → events = []) (e : Endpoint)
    (hn : g.hub.sessions.length ≤ n) (hlt : n < (g.attempt e).1.sessions.length) :
    (g.attempt e).1.session n =
      (Session.fresh e.context).step (entry g.settings.hub.startup g.nextChannel e) := by
  obtain ⟨processes, files, heq⟩ := attempt_eq hstart e
  rw [heq] at hlt ⊢
  replace hlt : n < (Hub.step _ _).sessions.length := hlt
  rw [Hub.length_on] at hlt
  change (Hub.step _ _).session n = _
  rcases hfound : g.hub.find? e.context with _ | m
  · rw [h.sound.findOrCreate_of_none hfound] at hlt ⊢
    obtain rfl : n = g.hub.sessions.length := by
      simp at hlt
      omega
    rw [Hub.session_on (by simp), Hub.session_append, if_pos rfl]
  · rw [Hub.findOrCreate_of_some hfound] at hlt
    exact absurd hlt (by simpa using hn)

/-- An attempt fails just if the engine of a first driver cannot be started. -/
lemma answer_eq_error {s : Session} (hs : s.IsOpen true) {startup : Session.Startup} {c : Channel}
    {err : Session.Error} (herr : answer startup c n s e = .error err) :
    entry startup c e = .attachDriver c startup ∧ (s.attachDriver c startup).2 = .error err ∧
      startup.outcome = .error err := by
  cases e with
  | command context mode readOnly =>
    cases readOnly with
    | true => simp [answer, Session.attachObserver, hs.live, Except.map] at herr
    | false =>
      have hattach : (s.attachDriver c startup).2 = .error err := by
        simp only [answer, Bool.false_eq_true, if_false] at herr
        rcases hout : (s.attachDriver c startup).2 with e | a
        · simpa [hout, Except.map] using herr
        · simp [hout, Except.map] at herr
      refine ⟨rfl, hattach, ?_⟩
      rw [Session.attachDriver_eq hs.live] at hattach
      rcases hp : s.lifecycle.driver with _ | _ | _
      · rcases ho : startup.outcome with e | u
        · simpa [hp, ho] using hattach
        · simp [hp, ho] at hattach
      · simp [hp] at hattach
      · simp [hp] at hattach
  | status context => simp [answer, Session.subscribe, hs.live, Except.map] at herr

/-- After an attempt has failed no session is registered for the context. -/
lemma IsKept.find?_attempt (h : IsKept lasts g)
    (hstart : ∀ events, g.settings.hub.start = .ok events → events = []) {e : Endpoint}
    {err : Session.Error} (herr : (g.attempt e).2 = .error err) :
    (g.attempt e).1.find? e.context = none := by
  have hready := h.isReady e.context
  have hs := (hready.sound.sessions _).isOpen hready.live
  have hkept := ((h.attempt hstart e).2 err herr).sound
  obtain ⟨processes, files, heq⟩ := attempt_eq hstart e
  rw [heq] at herr hkept ⊢
  obtain ⟨hentry, hattach, -⟩ := answer_eq_error hs herr
  have hends := hready.fit.isDestroyed_attachDriver hs hattach
  rw [hkept.find?_eq_none_iff]
  intro m hmem
  -- The entry would be that of the session that has just ended.
  obtain ⟨hbefore, hkeeps⟩ := (hready.sound.mem_entries_on _ _ (e.context, m)).1 hmem
  have hfound := (hready.sound.mem_entries_iff hready.complete _ _).2
    ((h.sound.isFaithful h.complete).gets e.context)
  obtain rfl := hready.sound.eq_of_mem_entries hfound hbefore
  refine hkeeps ⟨?_, hready.live, ?_⟩
  · rw [hready.sound.own _ _ hfound]
  · rw [hentry]
    exact hends

/-! ## A second attempt -/

/-- Where no engine can be started, a new session takes no driver. -/
lemma answer_fresh {startup : Session.Startup} {c : Channel} {err : Session.Error}
    (hentry : entry startup c e = .attachDriver c startup) (hout : startup.outcome = .error err)
    (n : Nat) (context : String) : answer startup c n (.fresh context) e = .error err := by
  cases e with
  | command _ mode readOnly =>
    cases readOnly with
    | true => simp [entry] at hentry
    | false =>
      simp [answer, Session.attachDriver, Session.fresh, Session.Lifecycle.initial,
        Session.Lifecycle.apply, Session.Lifecycle.welcome, hout, Except.map]
  | status _ => simp [entry] at hentry

/-- A second attempt, after one that failed, creates a session and fails as well. -/
lemma IsKept.attempt_again (h : IsKept lasts g)
    (hstart : ∀ events, g.settings.hub.start = .ok events → events = []) {e : Endpoint}
    {err : Session.Error} (herr : (g.attempt e).2 = .error err) :
    let again := { g with hub := (g.attempt e).1 }.attempt e
    again.2 = .error err ∧ (g.attempt e).1.sessions.length ≤ again.1.sessions.length ∧
      (∀ n < (g.attempt e).1.sessions.length, again.1.session n = (g.attempt e).1.session n) ∧
      ∀ n < again.1.sessions.length, (g.attempt e).1.sessions.length ≤ n →
        again.1.session n =
          (Session.fresh e.context).step (entry g.settings.hub.startup g.nextChannel e) := by
  have hfirst := (h.attempt hstart e).2 err herr
  have hnone := h.find?_attempt hstart herr
  have hready := h.isReady e.context
  have hs := (hready.sound.sessions _).isOpen hready.live
  obtain ⟨processes, files, heq⟩ := attempt_eq hstart e
  have hanswer := congrArg Prod.snd heq
  rw [herr] at hanswer
  obtain ⟨hentry, -, hout⟩ := answer_eq_error hs hanswer.symm
  refine ⟨?_, length_attempt (g := { g with hub := (g.attempt e).1 }) hstart e, fun n hn => ?_,
    fun n hn hnew => hfirst.session_attempt_of_le hstart e hnew hn⟩
  · obtain ⟨_, _, hagain⟩ := attempt_eq (g := { g with hub := (g.attempt e).1 }) hstart e
    rw [hagain]
    change answer _ _ _ (((g.attempt e).1.findOrCreate e.context).1.session _) e = _
    rw [hfirst.sound.findOrCreate_of_none hnone, Hub.session_append, if_pos rfl]
    exact answer_fresh hentry hout _ _
  · rw [hfirst.session_attempt hstart e hn, hnone, if_neg (by simp)]

/-- To try twice gives what the first attempt gave.  It does no more to the sessions that there were
before, and creates others only to do to them what the visitor came for. -/
lemma IsKept.persist_attempt (h : IsKept lasts g)
    (hstart : ∀ events, g.settings.hub.start = .ok events → events = []) (e : Endpoint) :
    let asked := g.persist (·.attempt e)
    asked.2 = (g.attempt e).2 ∧ (∀ purpose, asked.2 = .ok purpose → asked = g.attempt e) ∧
    g.hub.sessions.length ≤ asked.1.sessions.length ∧
    (∀ n < g.hub.sessions.length, asked.1.session n =
      if g.hub.find? e.context = some n then
        (g.hub.session n).step (entry g.settings.hub.startup g.nextChannel e)
      else g.hub.session n) ∧
    ∀ n < asked.1.sessions.length, g.hub.sessions.length ≤ n → asked.1.session n =
      (Session.fresh e.context).step (entry g.settings.hub.startup g.nextChannel e) := by
  have hlength := length_attempt hstart e
  simp only [Gateway.persist]
  split
  · next hub context heq =>
    obtain ⟨hsame, hmore, hold, hnew⟩ := h.attempt_again hstart (e := e) (by rw [heq])
    have hhub : hub = (g.attempt e).1 := by rw [heq]
    rw [← hhub] at hmore hold hnew hlength hsame
    rw [heq, hsame]
    refine ⟨rfl, by rintro purpose ⟨⟩, Nat.le_trans hlength hmore, fun n hn => ?_,
      fun n hn hle => ?_⟩
    · rw [hold n (Nat.lt_of_lt_of_le hn hlength), hhub, h.session_attempt hstart e hn]
    · rcases Nat.lt_or_ge n hub.sessions.length with hlt | hge
      · rw [hold n hlt, hhub]
        exact h.session_attempt_of_le hstart e hle (hhub ▸ hlt)
      · exact hnew n hn hge
  · exact ⟨rfl, fun _ _ => rfl, hlength, fun n hn => h.session_attempt hstart e hn,
      fun n hn hle => h.session_attempt_of_le hstart e hle hn⟩

/-! ## Arrivals -/

/-- The gateway takes note of what came of an attempt. -/
def Purpose.ofOutcome : Except Session.Error Purpose → Purpose
  | .ok purpose => purpose
  | .error e => .nothing e.message

lemma welcome_eq {path : String} (he : Endpoint.parse path = .ok e) :
    g.welcome path = .ok ({ g with hub := (g.persist (·.attempt e)).1 }.enroll
      (.ofOutcome (g.persist (·.attempt e)).2)) := by
  unfold welcome
  rw [he]
  cases e with
  | command context mode readOnly =>
    rcases (g.persist (·.seatIn context mode readOnly)).2 with err | purpose <;> rfl
  | status context =>
    rcases (g.persist (·.subscribeTo context)).2 with err | purpose <;> rfl

/-- The gateway before an arrival, told what comes of starting an engine. -/
def expecting (g : Gateway) (starts : Except Session.Error Unit) (logCapacity : Option Nat)
    (capacity : Nat) : Gateway :=
  { g with settings := ⟨⟨starts.map fun _ => [], logCapacity⟩, capacity⟩ }

variable {starts : Except Session.Error Unit} {logCapacity : Option Nat} {capacity : Nat}
  {path : String}

lemma startup_expecting (g : Gateway) (starts : Except Session.Error Unit)
    (logCapacity : Option Nat) (capacity : Nat) :
    (g.expecting starts logCapacity capacity).settings.hub.startup = ⟨starts, logCapacity⟩ := by
  cases starts <;> rfl

lemma start_expecting (g : Gateway) (starts : Except Session.Error Unit)
    (logCapacity : Option Nat) (capacity : Nat) :
    ∀ events, (g.expecting starts logCapacity capacity).settings.hub.start = .ok events →
      events = [] := by
  intro events h
  cases starts with
  | ok u => cases h; rfl
  | error e => cases h

/-- What an arrival is told of engines matters to no session that lives already. -/
lemma IsKept.expecting (h : IsKept lasts g) (starts : Except Session.Error Unit)
    (logCapacity : Option Nat) (capacity : Nat) :
    IsKept lasts (g.expecting starts logCapacity capacity) :=
  ⟨h.sound, h.complete, h.bound, h.unborn, h.used⟩

lemma step_arrive_of_error {err : WireError} (he : Endpoint.parse path = .error err) :
    g.step (.arrive path starts logCapacity capacity) = g := by
  simp [Gateway.step, welcome, he]

lemma step_arrive (he : Endpoint.parse path = .ok e) :
    let asked := (g.expecting starts logCapacity capacity).persist (·.attempt e)
    g.step (.arrive path starts logCapacity capacity) =
      ({ g.expecting starts logCapacity capacity with hub := asked.1 }.enroll
        (.ofOutcome asked.2)).1 := by
  have hwelcome := welcome_eq (g := g.expecting starts logCapacity capacity) he
  simp only [Gateway.expecting] at hwelcome ⊢
  simp only [Gateway.step, hwelcome]

section Answers

variable {startup : Session.Startup} {c : Channel} {s : Session} {purpose : Purpose} {i l : Nat}
  {drives : Bool} {mode : Mode}

/-- The role of a seat that somebody drives from, or does not. -/
def roleOf (drives : Bool) : Session.Role := if drives then .driver else .observer

/-- Who gets something from a session either is taken in, with its channel, and output is framed as
it asked, or has subscribed. -/
lemma answer_cases (h : answer startup c n s e = .ok purpose) :
    (∃ context mode readOnly drives, e = .command context mode readOnly ∧
      s.Attaches (entry startup c e) c (roleOf drives) ∧
      purpose = .terminal n s.seats.length drives mode) ∨
    ∃ context l, e = .status context ∧ s.subscribe.2 = .ok l ∧ purpose = .news n l := by
  cases e with
  | command context mode readOnly =>
    left
    cases readOnly with
    | true =>
      rcases hout : (s.attachObserver c).2 with err | u <;> simp [answer, hout, Except.map] at h
      exact ⟨context, mode, true, false, rfl, .observing hout, h.symm⟩
    | false =>
      rcases hout : (s.attachDriver c startup).2 with err | a <;>
        simp [answer, hout, Except.map] at h
      cases a with
      | driving => exact ⟨context, mode, false, true, rfl, .driving hout, h.symm⟩
      | observing => exact ⟨context, mode, false, false, rfl, .demoted hout, h.symm⟩
  | status context =>
    rcases hout : s.subscribe.2 with err | l <;> simp [answer, hout, Except.map] at h
    exact Or.inr ⟨context, l, rfl, rfl, h.symm⟩

lemma session?_of_answer (h : answer startup c n s e = .ok purpose) :
    purpose.session? = some n := by
  obtain ⟨_, _, _, _, -, -, rfl⟩ | ⟨_, _, -, -, rfl⟩ := answer_cases h <;> rfl

/-- Who gets a number has subscribed. -/
lemma subscribe_of_answer (h : answer startup c n s e = .ok (.news m l)) :
    entry startup c e = .subscribe ∧ s.subscribe.2 = .ok l := by
  obtain ⟨_, _, _, _, -, -, hpurpose⟩ | ⟨_, _, rfl, hsubscribe, hpurpose⟩ := answer_cases h
  · cases hpurpose
  · cases hpurpose
    exact ⟨rfl, hsubscribe⟩

/-- Who gets a seat is taken in, with its channel, and output is framed as it asked. -/
lemma attaches_of_answer (h : answer startup c n s e = .ok (.terminal m i drives mode)) :
    i = s.seats.length ∧ s.Attaches (entry startup c e) c (roleOf drives) ∧
      ∃ context readOnly, e = .command context mode readOnly := by
  obtain ⟨context, _, readOnly, _, he, hattaches, hpurpose⟩ | ⟨_, _, -, -, hpurpose⟩ :=
    answer_cases h
  · cases hpurpose
    exact ⟨rfl, hattaches, context, readOnly, he⟩
  · cases hpurpose

/-- A session that takes a visitor in goes on. -/
lemma isDestroyed_of_attaches (hs : s.IsSound true) {op : Session.Operation}
    {role : Session.Role} (h : s.Attaches op c role) : (s.step op).isDestroyed = false := by
  cases h with
  | driving hout => exact hs.isDestroyed_attachDriver hout
  | demoted hout => exact hs.isDestroyed_attachDriver hout
  | observing hout => exact hs.isDestroyed_attachObserver hout

lemma isDestroyed_step_entry (hs : s.IsSound true) (h : answer startup c n s e = .ok purpose) :
    (s.step (entry startup c e)).isDestroyed = false := by
  obtain ⟨_, _, _, _, -, hattaches, -⟩ | ⟨_, _, rfl, hsubscribe, -⟩ := answer_cases h
  · exact isDestroyed_of_attaches hs hattaches
  · exact hs.isDestroyed_subscribe hsubscribe

end Answers

/-- Where a visitor comes to a session, it is the one that was found for its context, which lives
on, and the visitor has the answer to the one thing that was done to it. -/
lemma IsKept.exists_of_arrive (h : IsKept lasts g) {purpose : Purpose}
    (hvisit : (g.step (.arrive path starts logCapacity capacity)).visits[g.visits.length]? =
      some ⟨purpose, true, true⟩) (hn : purpose.session? = some n) :
    ∃ e, Endpoint.parse path = .ok e ∧ n = (g.hub.findOrCreate e.context).2 ∧
      (g.step (.arrive path starts logCapacity capacity)).hub.LivesIn n e.context ∧
      let c := Channel.fresh (channelName g.visits.length) capacity
      let s := (g.hub.findOrCreate e.context).1.session n
      answer ⟨starts, logCapacity⟩ c n s e = .ok purpose ∧
      (g.step (.arrive path starts logCapacity capacity)).hub.session n =
        s.step (entry ⟨starts, logCapacity⟩ c e) := by
  have hstart := start_expecting g starts logCapacity capacity
  rcases he : Endpoint.parse path with err | e
  · rw [step_arrive_of_error he] at hvisit
    simp at hvisit
  · obtain ⟨hsame, honce, -, -⟩ :=
      (h.expecting starts logCapacity capacity).persist_attempt hstart e
    obtain ⟨processes, files, heq⟩ := attempt_eq hstart e
    have hinside := (h.isReady e.context).inside
    rw [step_arrive he] at hvisit ⊢
    have hpurpose : Purpose.ofOutcome ((g.expecting starts logCapacity capacity).attempt e).2 =
        purpose := by
      simp only [enroll, hsame] at hvisit
      simpa [Gateway.expecting] using hvisit
    rcases hout : ((g.expecting starts logCapacity capacity).attempt e).2 with err | found
    · rw [hout] at hpurpose
      rw [← hpurpose] at hn
      simp [Purpose.ofOutcome, Purpose.session?] at hn
    · rw [hout] at hpurpose
      obtain rfl : found = purpose := hpurpose
      rw [honce found (hsame.trans hout), heq, startup_expecting]
      rw [heq, startup_expecting] at hout
      obtain rfl : n = (g.hub.findOrCreate e.context).2 :=
        Option.some.inj (hn.symm.trans (session?_of_answer hout))
      have hsound := (h.isReady e.context).sound.sessions (g.hub.findOrCreate e.context).2
      have hnext := Hub.session_on hinside (entry ⟨starts, logCapacity⟩
        (g.expecting starts logCapacity capacity).nextChannel e)
      refine ⟨e, rfl, rfl, ⟨Nat.lt_of_lt_of_eq hinside (Hub.length_on _ _ _).symm, ?_, ?_⟩, hout,
        hnext⟩
      · refine (congrArg Session.context hnext).trans ((hsound.context_step _).trans ?_)
        exact ((h.sound.isFaithful h.complete).gets e.context).2.1
      · exact (congrArg Session.isDestroyed hnext).trans (isDestroyed_step_entry hsound hout)

end SharedTerminal.Gateway
