import SharedTerminal.Proofs.Gateway.Arrival

/-!
# One session at a gateway

What happens at a gateway is, for one session that there is, a list of operations: `opOn?` says
which one a step is, if any, and `opsOn` collects them.  A session after a list of steps is the
session after these operations (`IsKept.session_evolve`), so that what holds of the runs of a
session holds of each session at a gateway.
-/

namespace SharedTerminal.Gateway

open Session (Channel)

variable {g : Gateway} {lasts : Nat → Option Task.Status} {k n : Nat}

/-! ## Operations on one session -/

/-- What a step does to the session with a number. -/
def opOn? (n : Nat) (g : Gateway) : Operation → Option Session.Operation
  | .arrive path starts logCapacity capacity =>
    match Endpoint.parse path with
    | .error _ => none
    | .ok e =>
      if g.hub.find? e.context = some n then
        some (entry ⟨starts, logCapacity⟩ (.fresh (channelName g.visits.length) capacity) e)
      else none
  | .depart k =>
    match g.visits[k]? with
    | none => none
    | some visit =>
      if visit.listening = true ∧ visit.purpose.session? = some n then
        some (visit.purpose.leaving k)
      else none
  | .pump m event =>
    if m = n ∧ (g.hub.session m).process.isSome then
      some (.ofEvent (g.hub.session m).context event)
    else none
  | .transit m op _ => if m = n then some op else none

/-- Something is done to a session for a visitor that comes or leaves, by its engine, or in transit
there. -/
lemma opOn?_cases {op : Operation} {sop : Session.Operation} (h : opOn? n g op = some sop) :
    (∃ path starts logCapacity capacity e, op = .arrive path starts logCapacity capacity ∧
      sop = entry ⟨starts, logCapacity⟩ (.fresh (channelName g.visits.length) capacity) e) ∨
    (∃ k visit, op = .depart k ∧ g.visits[k]? = some visit ∧
      visit.purpose.session? = some n ∧ sop = visit.purpose.leaving k) ∨
    (∃ event, op = .pump n event ∧ sop = .ofEvent (g.hub.session n).context event) ∨
    ∃ hq, op = .transit n sop hq := by
  cases op with
  | arrive path starts logCapacity capacity =>
    simp only [opOn?] at h
    split at h
    · cases h
    · next e _ =>
      split at h
      · exact Or.inl ⟨path, starts, logCapacity, capacity, e, rfl, (Option.some.inj h).symm⟩
      · cases h
  | depart k =>
    simp only [opOn?] at h
    split at h
    · cases h
    · next visit hk =>
      split at h
      · next hat =>
        exact Or.inr (Or.inl ⟨k, visit, rfl, hk, hat.2, (Option.some.inj h).symm⟩)
      · cases h
  | pump m event =>
    simp only [opOn?] at h
    split at h
    · next hm =>
      obtain ⟨rfl, -⟩ := hm
      exact Or.inr (Or.inr (Or.inl ⟨event, rfl, (Option.some.inj h).symm⟩))
    · cases h
  | transit m op hq =>
    simp only [opOn?] at h
    split at h
    · next hm =>
      cases h
      subst hm
      exact Or.inr (Or.inr (Or.inr ⟨hq, rfl⟩))
    · cases h

/-- What a list of steps does to the session with a number. -/
def opsOn (n : Nat) (g : Gateway) : List Operation → List Session.Operation
  | [] => []
  | op :: ops => (opOn? n g op).toList ++ opsOn n (g.step op) ops

lemma evolve_append (g : Gateway) (ops more : List Operation) :
    g.evolve (ops ++ more) = (g.evolve ops).evolve more :=
  List.foldl_append

lemma opsOn_append (n : Nat) (g : Gateway) (ops more : List Operation) :
    opsOn n g (ops ++ more) = opsOn n g ops ++ opsOn n (g.evolve ops) more := by
  induction ops generalizing g with
  | nil => rfl
  | cons op ops ih => simp [opsOn, ih]

/-! ## One step -/

/-- What an operation on one session does to each. -/
lemma session_on_eq {hub : Hub} (hn : n < hub.sessions.length) (m : Nat)
    (op : Session.Operation) :
    (hub.step (.on m op)).session n =
      (hub.session n).run (if m = n then some op else none).toList := by
  by_cases hm : m = n
  · subst hm
    simp [Hub.session_on hn]
  · simp [hm, Hub.session_on_of_ne (Ne.symm hm)]

/-- A step does to a session that there is one operation at most. -/
lemma IsKept.session_step (h : IsKept lasts g) (hn : n < g.hub.sessions.length)
    (op : Operation) :
    (g.step op).hub.session n = (g.hub.session n).run (opOn? n g op).toList := by
  cases op with
  | arrive path starts logCapacity capacity =>
    simp only [opOn?]
    rcases he : Endpoint.parse path with err | e
    · rw [step_arrive_of_error he]
      rfl
    · have hexpecting := h.expecting starts logCapacity capacity
      have hstart := start_expecting g starts logCapacity capacity
      rw [step_arrive he]
      change ((g.expecting starts logCapacity capacity).persist (·.attempt e)).1.session n = _
      rw [(hexpecting.persist_attempt hstart e).2.2.2.1 n hn, startup_expecting]
      by_cases hfound : g.hub.find? e.context = some n
      · simp only [hfound, if_true]
        exact if_pos hfound
      · simp only [hfound, if_false]
        exact if_neg hfound
  | depart k =>
    simp only [Gateway.step, Gateway.depart, opOn?]
    rcases hk : g.visits[k]? with _ | visit
    · rfl
    · rcases hl : visit.listening with _ | _
      · simp [hl]
      · rcases hsession : visit.purpose.session? with _ | m
        · simp [hl, hsession, release_of_session?_eq_none g k hsession, Gateway.modify]
        · simpa [hl, hsession, hub_release g k hsession, Gateway.modify] using session_on_eq hn m _
  | pump m event =>
    simp only [Gateway.step, opOn?]
    rcases hp : (g.hub.session m).process.isSome with _ | _
    · simp
    · simpa [hub_pump] using session_on_eq hn m _
  | transit m op hq => exact session_on_eq hn m op

/-- Whether a step lets somebody in, or does not because of the path. -/
def Operation.isArrival : Operation → Bool
  | .arrive .. => true
  | _ => false

lemma Operation.eq_of_isArrival {op : Operation} (hop : op.isArrival = true) :
    ∃ path starts logCapacity capacity, op = .arrive path starts logCapacity capacity := by
  cases op with
  | arrive path starts logCapacity capacity => exact ⟨_, _, _, _, rfl⟩
  | _ => cases hop

/-- Only for those who arrive sessions are created. -/
lemma length_step_of_not_isArrival {op : Operation} (hop : op.isArrival = false) :
    (g.step op).hub.sessions.length = g.hub.sessions.length := by
  cases op with
  | arrive path starts logCapacity capacity => cases hop
  | depart k =>
    simp only [Gateway.step, Gateway.depart]
    split
    · rfl
    · next visit hk =>
      split
      · rcases hsession : visit.purpose.session? with _ | m
        · simp [release_of_session?_eq_none g k hsession, Gateway.modify]
        · simp [hub_release g k hsession, Gateway.modify]
      · rfl
  | pump m event =>
    simp only [Gateway.step]
    split
    · simp [hub_pump]
    · rfl
  | transit m op hq => simp [Gateway.step]

/-- Sessions are only ever added. -/
lemma IsKept.length_step (h : IsKept lasts g) (op : Operation) :
    g.hub.sessions.length ≤ (g.step op).hub.sessions.length := by
  rcases hop : op.isArrival with _ | _
  · exact Nat.le_of_eq (length_step_of_not_isArrival hop).symm
  · obtain ⟨path, starts, logCapacity, capacity, rfl⟩ := op.eq_of_isArrival hop
    rcases he : Endpoint.parse path with err | e
    · exact Nat.le_of_eq (congrArg (·.hub.sessions.length) (step_arrive_of_error he)).symm
    · rw [step_arrive he]
      exact ((h.expecting starts logCapacity capacity).persist_attempt
        (start_expecting g starts logCapacity capacity) e).2.2.1

/-! ## Whole runs -/

/-- What happens at a gateway is, for a session that there is, a list of operations. -/
lemma IsKept.session_evolve (h : IsKept lasts g) (hn : n < g.hub.sessions.length)
    (ops : List Operation) :
    (g.evolve ops).hub.session n = (g.hub.session n).run (opsOn n g ops) := by
  induction ops generalizing g lasts with
  | nil => rfl
  | cons op ops ih =>
    rw [evolve_cons, ih (h.step op) (Nat.lt_of_lt_of_le hn (h.length_step op)), opsOn,
      Session.run_append, h.session_step hn]

lemma IsKept.length_evolve (h : IsKept lasts g) (ops : List Operation) :
    g.hub.sessions.length ≤ (g.evolve ops).hub.sessions.length := by
  induction ops generalizing g lasts with
  | nil => exact Nat.le_refl _
  | cons op ops ih => exact Nat.le_trans (h.length_step op) (ih (h.step op))

/-! ## Visitors -/

/-- What each visitor came for, in the order of arrival. -/
def purposes (g : Gateway) : List Purpose := g.visits.map Visit.purpose

lemma purposes_depart (g : Gateway) (k : Nat) : (g.depart k).purposes = g.purposes := by
  unfold Gateway.depart
  split
  · rfl
  · split
    · simp only [purposes, Gateway.modify, visits_release]
      exact Session.map_modify_of_eq (f := Visit.over) (fun _ => rfl) g.visits k
    · rfl

/-- Visitors are only ever added, one at a time, and what they came for does not change. -/
lemma purposes_step (g : Gateway) (op : Operation) :
    (g.step op).purposes = g.purposes ∨ op.isArrival = true ∧
      ∃ purpose, (g.step op).visits = g.visits ++ [⟨purpose, true, true⟩] ∧
        (g.step op).purposes = g.purposes ++ [purpose] := by
  cases op with
  | arrive path starts logCapacity capacity =>
    rcases he : Endpoint.parse path with err | e
    · exact Or.inl (by rw [step_arrive_of_error he])
    · rw [step_arrive he]
      exact Or.inr ⟨rfl, _, rfl, List.map_append⟩
  | depart k => exact Or.inl (purposes_depart g k)
  | pump m event =>
    simp only [Gateway.step]
    split <;> exact Or.inl rfl
  | transit m op hq => exact Or.inl rfl

lemma purposes_evolve (g : Gateway) (ops : List Operation) :
    g.purposes <+: (g.evolve ops).purposes := by
  induction ops generalizing g with
  | nil => exact List.prefix_refl _
  | cons op ops ih =>
    refine List.IsPrefix.trans ?_ (ih (g.step op))
    rcases purposes_step g op with hsame | ⟨-, purpose, -, hmore⟩
    · exact hsame ▸ List.prefix_refl _
    · rw [hmore]
      exact List.prefix_append _ _

lemma length_purposes (g : Gateway) : g.purposes.length = g.visits.length := by
  simp [purposes]

/-! ## Names and numbers -/

/-- The channels of a session have names of their own, those of the first visitors. -/
structure HasNames (count : Nat) (s : Session) : Prop where
  /-- No two have the same. -/
  nodup : s.ids.Nodup
  /-- Each is that of a visitor. -/
  named : ∀ name ∈ s.ids, ∃ k < count, name = channelName k

lemma hasNames_fresh (count : Nat) (context : String) : HasNames count (.fresh context) where
  nodup := List.nodup_nil
  named := by simp [Session.ids, Session.fresh]

lemma HasNames.mono {s : Session} {count more : Nat} (h : HasNames count s)
    (hmore : count ≤ more) : HasNames more s where
  nodup := h.nodup
  named name hname := by
    obtain ⟨k, hk, heq⟩ := h.named name hname
    exact ⟨k, Nat.lt_of_lt_of_le hk hmore, heq⟩

/-- The next visitor brings a new name, -/
lemma HasNames.arrive {s : Session} {count : Nat} (h : HasNames count s) (hs : s.IsSound true)
    {op : Session.Operation} (hop : ∀ c, op.newcomer? = some c → c.id = channelName count) :
    HasNames (count + 1) (s.step op) := by
  rcases Session.ids_step_cases hs op with hsame | ⟨c, hc, hmore⟩
  · refine HasNames.mono ⟨?_, ?_⟩ (Nat.le_succ count)
    · rw [hsame]
      exact h.nodup
    · rw [hsame]
      exact h.named
  · rw [hop c hc] at hmore
    refine ⟨?_, fun name hname => ?_⟩
    · rw [hmore, List.nodup_append]
      refine ⟨h.nodup, by simp, ?_⟩
      rintro name hname other hother rfl
      obtain ⟨k, hk, rfl⟩ := h.named name hname
      rw [List.mem_singleton, channelName_inj] at hother
      omega
    · rw [hmore, List.mem_append, List.mem_singleton] at hname
      rcases hname with hold | rfl
      · exact (h.mono (Nat.le_succ count)).named name hold
      · exact ⟨count, Nat.lt_succ_self count, rfl⟩

/-- and nobody else brings any. -/
lemma HasNames.step {s : Session} {count : Nat} (h : HasNames count s) (hs : s.IsSound true)
    {op : Session.Operation} (hop : op.newcomer? = none) : HasNames count (s.step op) := by
  rcases Session.ids_step_cases hs op with hsame | ⟨c, hc, -⟩
  · refine ⟨?_, ?_⟩
    · rw [hsame]
      exact h.nodup
    · rw [hsame]
      exact h.named
  · rw [hop] at hc
    cases hc

/-! ## Spots -/

/-- Where a visitor is in a session: on a seat, or on the register of listeners. -/
inductive Spot where
  /-- A seat, by its place. -/
  | seat (n i : Nat)
  /-- A listener, by its number. -/
  | listener (n l : Nat)
deriving DecidableEq

/-- Where a visitor is that came for something. -/
def Purpose.spot? : Purpose → Option Spot
  | .terminal n i _ _ => some (.seat n i)
  | .news n l => some (.listener n l)
  | .nothing _ => none

/-- A spot was given by a session. -/
def Spot.IsIn (hub : Hub) : Spot → Prop
  | seat n i => n < hub.sessions.length ∧ i < (hub.session n).seats.length
  | listener n l => n < hub.sessions.length ∧ l < (hub.session n).listeners.all.length

/-- Seats are only ever added, -/
lemma length_seats_step {s : Session} (hs : s.IsSound true) (op : Session.Operation) :
    s.seats.length ≤ (s.step op).seats.length := by
  simpa [Session.ids] using (Session.ids_step hs op).length_le

/-- and so are listeners. -/
lemma length_listeners_step {s : Session} (hs : s.IsSound true) (op : Session.Operation) :
    s.listeners.all.length ≤ (s.step op).listeners.all.length := by
  rcases Nat.eq_zero_or_pos s.listeners.all.length with hzero | hpos
  · omega
  · have hlast : s.listeners.all.length - 1 < s.listeners.all.length := by omega
    obtain ⟨next, hnext, -⟩ :=
      Session.exists_listener_step hs (List.getElem?_eq_getElem hlast) op
    have hlt := (List.getElem?_eq_some_iff.1 hnext).1
    omega

/-- A spot that was given stays. -/
lemma Spot.IsIn.step {spot : Spot} (hspot : spot.IsIn g.hub) (h : IsKept lasts g)
    (op : Operation) : spot.IsIn (g.step op).hub := by
  have hsession : ∀ n < g.hub.sessions.length, n < (g.step op).hub.sessions.length ∧
      (g.hub.session n).seats.length ≤ ((g.step op).hub.session n).seats.length ∧
      (g.hub.session n).listeners.all.length ≤
        ((g.step op).hub.session n).listeners.all.length := by
    intro n hn
    refine ⟨Nat.lt_of_lt_of_le hn (h.length_step op), ?_⟩
    rw [h.session_step hn]
    cases opOn? n g op with
    | none => exact ⟨Nat.le_refl _, Nat.le_refl _⟩
    | some sop =>
      exact ⟨length_seats_step (h.sound.sessions n) sop,
        length_listeners_step (h.sound.sessions n) sop⟩
  cases spot with
  | seat n i =>
    obtain ⟨hn, hseats, -⟩ := hsession n hspot.1
    exact ⟨hn, Nat.lt_of_lt_of_le hspot.2 hseats⟩
  | listener n l =>
    obtain ⟨hn, -, hlisteners⟩ := hsession n hspot.1
    exact ⟨hn, Nat.lt_of_lt_of_le hspot.2 hlisteners⟩

/-- A number is that of the next listener. -/
lemma eq_of_subscribe {s : Session} {l : Nat} (hok : s.subscribe.2 = .ok l) :
    l = s.listeners.all.length := by
  unfold Session.subscribe at hok
  split at hok
  · cases hok
  · exact (Except.ok.inj hok).symm

/-- A visitor that has come is on a spot that was not given before. -/
lemma IsKept.spot_of_arrival (h : IsKept lasts g) {op : Operation} (hop : op.isArrival = true)
    {purpose : Purpose} (hvisits : (g.step op).visits = g.visits ++ [⟨purpose, true, true⟩])
    {spot : Spot} (hspot : purpose.spot? = some spot) :
    spot.IsIn (g.step op).hub ∧ ¬ spot.IsIn g.hub := by
  obtain ⟨path, starts, logCapacity, capacity, rfl⟩ := op.eq_of_isArrival hop
  have hlast : (g.step (.arrive path starts logCapacity capacity)).visits[g.visits.length]? =
      some ⟨purpose, true, true⟩ := by
    rw [hvisits, List.getElem?_concat_length]
  cases purpose with
  | terminal n i drives mode =>
    cases hspot
    obtain ⟨e, -, -, ⟨hinside, -⟩, hanswer, hnext⟩ := h.exists_of_arrive hlast rfl
    obtain ⟨rfl, hattaches, -⟩ := attaches_of_answer hanswer
    refine ⟨⟨hinside, ?_⟩, fun hin => ?_⟩
    · rw [hnext]
      exact (List.getElem?_eq_some_iff.1 hattaches.getElem?_step).1
    · have hlt := hin.2
      rw [session_findOrCreate h.sound _ hin.1] at hlt
      exact absurd hlt (Nat.lt_irrefl _)
  | news n l =>
    cases hspot
    obtain ⟨e, -, -, ⟨hinside, -⟩, hanswer, hnext⟩ := h.exists_of_arrive hlast rfl
    obtain ⟨hentry, hsubscribe⟩ := subscribe_of_answer hanswer
    refine ⟨⟨hinside, ?_⟩, fun hin => ?_⟩
    · rw [hnext, hentry]
      exact (List.getElem?_eq_some_iff.1 (Session.getElem?_of_subscribe hsubscribe)).1
    · rw [session_findOrCreate h.sound _ hin.1] at hsubscribe
      exact absurd hin.2 (by rw [eq_of_subscribe hsubscribe]; omega)
  | nothing reason => cases hspot

/-! ## What is given once -/

/-- Names and spots are given once at a gateway. -/
structure IsNumbered (g : Gateway) : Prop where
  /-- The channels of each session have names of their own. -/
  names : ∀ n < g.hub.sessions.length, HasNames g.visits.length (g.hub.session n)
  /-- Visitors are on spots that were given, -/
  held : ∀ (k : Nat) (spot : Spot), g.purposes[k]?.bind Purpose.spot? = some spot → spot.IsIn g.hub
  /-- each on its own. -/
  once : ∀ (j k : Nat) (spot : Spot), g.purposes[j]?.bind Purpose.spot? = some spot →
    g.purposes[k]?.bind Purpose.spot? = some spot → j = k

lemma isNumbered_idle (settings : Settings) : IsNumbered (idle settings) where
  names := by simp [idle, Hub.empty]
  held := by simp [purposes, idle]
  once := by simp [purposes, idle]

lemma newcomer?_entry {startup : Session.Startup} {c d : Channel} {e : Endpoint}
    (h : (entry startup c e).newcomer? = some d) : d = c := by
  cases e with
  | command context mode readOnly => cases readOnly <;> exact (Option.some.inj h).symm
  | status context => simp [entry, Session.Operation.newcomer?] at h

/-- Nobody but a visitor that arrives brings a channel. -/
lemma newcomer?_opOn? {op : Operation} {sop : Session.Operation} (hop : opOn? n g op = some sop)
    (harrive : op.isArrival = false) : sop.newcomer? = none := by
  obtain ⟨_, _, _, _, e, rfl, rfl⟩ | ⟨k, visit, rfl, -, -, rfl⟩ | ⟨event, rfl, rfl⟩ | ⟨hq, rfl⟩ :=
    opOn?_cases hop
  · cases harrive
  · rcases visit.purpose with ⟨n, seat, _ | _, mode⟩ | ⟨n, l⟩ | reason <;> rfl
  · cases event <;> rfl
  · cases sop <;> first | rfl | simp [Session.Operation.isQuiet] at hq

lemma IsKept.hasNames_step (h : IsKept lasts g) (hg : IsNumbered g) (op : Operation)
    (hn : n < (g.step op).hub.sessions.length) :
    HasNames (g.step op).visits.length ((g.step op).hub.session n) := by
  rcases hop : op.isArrival with _ | _
  · rw [length_step_of_not_isArrival hop] at hn
    have hcount : (g.step op).visits.length = g.visits.length := by
      rcases purposes_step g op with hsame | ⟨harrival, -⟩
      · rw [← length_purposes, hsame, length_purposes]
      · rw [hop] at harrival
        cases harrival
    rw [hcount, h.session_step hn]
    rcases hsop : opOn? n g op with _ | sop
    · exact hg.names n hn
    · exact (hg.names n hn).step (h.sound.sessions n) (newcomer?_opOn? hsop hop)
  · obtain ⟨path, starts, logCapacity, capacity, rfl⟩ := Operation.eq_of_isArrival hop
    rcases he : Endpoint.parse path with err | e
    · rw [step_arrive_of_error he] at hn ⊢
      exact hg.names n hn
    · -- The one new name is that of the visitor.
      have hnew : ∀ c, (entry ⟨starts, logCapacity⟩ (.fresh (channelName g.visits.length) capacity)
          e).newcomer? = some c → c.id = channelName g.visits.length := by
        intro c hc
        rw [newcomer?_entry hc]
        rfl
      have hcount : (g.step (.arrive path starts logCapacity capacity)).visits.length =
          g.visits.length + 1 := by
        rw [step_arrive he]
        simp [enroll, Gateway.expecting]
      rw [hcount]
      rcases Nat.lt_or_ge n g.hub.sessions.length with hlt | hge
      · rw [h.session_step hlt, opOn?, he]
        by_cases hfound : g.hub.find? e.context = some n
        · simp only [hfound, if_true]
          exact (hg.names n hlt).arrive (h.sound.sessions n) hnew
        · simp only [hfound, if_false]
          exact (hg.names n hlt).mono (Nat.le_succ _)
      · have hstart := start_expecting g starts logCapacity capacity
        rw [step_arrive he] at hn ⊢
        have hcreated := ((h.expecting starts logCapacity capacity).persist_attempt hstart
          e).2.2.2.2 n hn hge
        rw [startup_expecting] at hcreated
        change HasNames _ (((g.expecting starts logCapacity capacity).persist
          (·.attempt e)).1.session n)
        rw [hcreated]
        exact (hasNames_fresh _ _).arrive (Or.inl (Session.isOpen_fresh _ _)) hnew

lemma IsNumbered.step (hg : IsNumbered g) (h : IsKept lasts g) (op : Operation) :
    IsNumbered (g.step op) := by
  have hheld : ∀ (k : Nat) (spot : Spot), g.purposes[k]?.bind Purpose.spot? = some spot →
      spot.IsIn (g.step op).hub :=
    fun k spot hk => (hg.held k spot hk).step h op
  rcases purposes_step g op with hsame | ⟨hop, purpose, hvisits, hmore⟩
  · refine ⟨fun n hn => h.hasNames_step hg op hn, ?_, ?_⟩
    · rw [hsame]
      exact hheld
    · rw [hsame]
      exact hg.once
  · -- Whoever is on a spot was there before, or has come now.
    have hcases : ∀ (k : Nat) (spot : Spot),
        (g.step op).purposes[k]?.bind Purpose.spot? = some spot →
        g.purposes[k]?.bind Purpose.spot? = some spot ∨
          k = g.purposes.length ∧ purpose.spot? = some spot := by
      intro k spot hk
      rw [hmore] at hk
      rcases Nat.lt_trichotomy k g.purposes.length with hlt | rfl | hgt
      · exact Or.inl (by rwa [List.getElem?_append_left hlt] at hk)
      · exact Or.inr ⟨rfl, by simpa using hk⟩
      · rw [List.getElem?_eq_none (by simp; omega)] at hk
        cases hk
    refine ⟨fun n hn => h.hasNames_step hg op hn, fun k spot hk => ?_, fun j k spot hj hk => ?_⟩
    · rcases hcases k spot hk with hold | ⟨-, hnew⟩
      · exact hheld k spot hold
      · exact (h.spot_of_arrival hop hvisits hnew).1
    · rcases hcases j spot hj with hjold | ⟨hjlast, hjnew⟩ <;>
        rcases hcases k spot hk with hkold | ⟨hklast, hknew⟩
      · exact hg.once j k spot hjold hkold
      · exact absurd (hg.held j spot hjold) (h.spot_of_arrival hop hvisits hknew).2
      · exact absurd (hg.held k spot hkold) (h.spot_of_arrival hop hvisits hjnew).2
      · rw [hjlast, hklast]

lemma IsNumbered.evolve (hg : IsNumbered g) (h : IsKept lasts g) (ops : List Operation) :
    IsNumbered (g.evolve ops) := by
  induction ops generalizing g lasts with
  | nil => exact hg
  | cons op ops ih => exact ih (hg.step h op) (h.step op)

end SharedTerminal.Gateway
