import SharedTerminal.Proofs.Gateway.Projection
import SharedTerminal.Proofs.Session.Commands
import Mathlib.Data.List.TakeWhile

/-!
# Two connections of one client

A client listens first and comes for the terminal afterwards, and each time it gets the session
that its context has at that moment.  Others come and go in between.  A listener keeps no session
alive, so the session may have ended, and then the queue of the listener is closed and the terminal
is one of another session.

The main statement is `pair_shares_iff_not_concluded`.
-/

namespace SharedTerminal.Gateway

open Session (Channel)

variable {g : Gateway} {lasts : Nat → Option Task.Status} {context : String} {m n l k : Nat}
  {op : Operation}

/-! ## The two arrivals -/

/-- In a step a visitor comes to listen, and is the listener with a number in a session. -/
structure Subscribes (g : Gateway) (op : Operation) (context : String) (n l : Nat) : Prop where
  /-- It asks for the status of a context, -/
  asks : ∃ path starts logCapacity capacity, op = .arrive path starts logCapacity capacity ∧
    Endpoint.parse path = .ok (.status context)
  /-- and gets it. -/
  gets : (g.step op).visits[g.visits.length]? = some ⟨.news n l, true, true⟩

/-- In a step a visitor comes to the terminal, and is let in to a session. -/
structure Attaches (g : Gateway) (op : Operation) (context : String) (m : Nat) : Prop where
  /-- It asks for the terminal of a context, -/
  asks : ∃ path starts logCapacity capacity mode readOnly,
    op = .arrive path starts logCapacity capacity ∧
      Endpoint.parse path = .ok (.command context mode readOnly)
  /-- and gets it. -/
  gets : ∃ seat drives mode,
    (g.step op).visits[g.visits.length]? = some ⟨.terminal m seat drives mode, true, true⟩

/-- Whether the connection of a visitor that listens ends in a step. -/
def Operation.closes (k n l : Nat) : Operation → Bool
  | .depart j => j == k
  | .transit m (.dropListener i) _ => m == n && i == l
  | _ => false

/-- What a subscription leads to: a new listener of a session that lives. -/
lemma Subscribes.spec (hs : Subscribes g op context n l) (h : IsKept lasts g) :
    (g.step op).hub.LivesIn n context ∧
      ((g.step op).hub.session n).listeners.all[l]? = some .fresh := by
  obtain ⟨path, starts, logCapacity, capacity, rfl, he⟩ := hs.asks
  obtain ⟨e, he', -, hlives, hanswer, hnext⟩ := h.exists_of_arrive hs.gets rfl
  obtain rfl : Endpoint.status context = e := Except.ok.inj (he.symm.trans he')
  obtain ⟨hentry, hsubscribe⟩ := subscribe_of_answer hanswer
  rw [hentry] at hnext
  exact ⟨hlives, hnext ▸ Session.getElem?_of_subscribe hsubscribe⟩

/-- A terminal is one of the session that the context has: one that lives, or a new one. -/
lemma Attaches.spec (ha : Attaches g op context m) (h : IsKept lasts g) :
    (g.step op).hub.LivesIn m context ∧ m = (g.hub.findOrCreate context).2 := by
  obtain ⟨path, starts, logCapacity, capacity, mode, readOnly, rfl, he⟩ := ha.asks
  obtain ⟨seat, drives, mode', hvisit⟩ := ha.gets
  obtain ⟨e, he', hm, hlives, -⟩ := h.exists_of_arrive hvisit rfl
  obtain rfl : Endpoint.command context mode readOnly = e := Except.ok.inj (he.symm.trans he')
  exact ⟨hlives, hm⟩

/-! ## The listener -/

/-- Nothing takes a listener off the register of its session, or makes it stop reading, but the end
of its own connection. -/
lemma IsNumbered.dismisses_opOn? (hg : IsNumbered g)
    (hk : g.purposes[k]? = some (Purpose.news n l)) (hop : op.closes k n l = false)
    {sop : Session.Operation} (hsop : opOn? n g op = some sop) : sop.dismisses l = false := by
  obtain ⟨_, _, _, _, e, rfl, rfl⟩ | ⟨j, visit, rfl, hj, hat, rfl⟩ | ⟨event, rfl, rfl⟩ |
    ⟨hq, rfl⟩ := opOn?_cases hsop
  · rcases e with ⟨_, _, _ | _⟩ | _ <;> rfl
  · have hpurpose : g.purposes[j]? = some visit.purpose := by simp [purposes, hj]
    rcases hp : visit.purpose with ⟨_, _, _ | _, _⟩ | ⟨n', i⟩ | _
    · rfl
    · rfl
    · -- Whoever has the number is the visitor itself.
      obtain rfl : n' = n := by simpa [hp, Purpose.session?] using hat
      simp only [Purpose.leaving, Session.Operation.dismisses, beq_eq_false_iff_ne]
      rintro rfl
      rw [hp] at hpurpose
      simp [Operation.closes, hg.once j k (.listener n' i) (by simp [hpurpose, Purpose.spot?])
        (by simp [hk, Purpose.spot?])] at hop
    · rfl
  · cases event <;> rfl
  · cases sop with
    | dropListener i => simpa [Operation.closes, Session.Operation.dismisses] using hop
    | unsubscribe i => cases hq
    | _ => rfl

lemma IsNumbered.dismisses_opsOn (hg : IsNumbered g) (h : IsKept lasts g)
    (hk : g.purposes[k]? = some (Purpose.news n l)) {ops : List Operation}
    (hops : ops.all (!·.closes k n l) = true) : (opsOn n g ops).all (!·.dismisses l) = true := by
  induction ops generalizing g lasts with
  | nil => rfl
  | cons op ops ih =>
    rw [List.all_cons, Bool.and_eq_true, Bool.not_eq_true'] at hops
    have hnext : (g.step op).purposes[k]? = some (Purpose.news n l) := by
      obtain ⟨more, hmore⟩ := purposes_evolve g [op]
      have hlt := (List.getElem?_eq_some_iff.1 hk).1
      rw [evolve_cons, evolve_nil] at hmore
      rw [← hmore, List.getElem?_append_left hlt, hk]
    rw [opsOn, List.all_append, ih (hg.step h op) (h.step op) hnext hops.2, Bool.and_true]
    rcases hsop : opOn? n g op with _ | sop
    · rfl
    · simp [hg.dismisses_opOn? hk hops.1 hsop]

/-! ## Both connections -/

/-- What happens at a gateway before a client comes, between its two arrivals, and after them. -/
structure Pairing where
  /-- What the gateway was told at first. -/
  settings : Settings
  /-- What happened before. -/
  before : List Operation
  /-- The step in which the client comes to listen. -/
  subscription : Operation
  /-- What happened in between. -/
  between : List Operation
  /-- The step in which it comes for the terminal. -/
  attachment : Operation
  /-- What happened after that. -/
  after : List Operation

namespace Pairing

variable (p : Pairing)

/-- The gateway before the client comes. -/
def first : Gateway := (idle p.settings).evolve p.before

/-- The gateway when the client listens. -/
def subscribed : Gateway := p.first.step p.subscription

/-- The gateway when the client comes for the terminal. -/
def waited : Gateway := p.subscribed.evolve p.between

/-- The gateway when the client has the terminal. -/
def attached : Gateway := p.waited.step p.attachment

/-- The gateway in the end. -/
def last : Gateway := p.attached.evolve p.after

/-- A client listens to a session and is let in to the terminal of one, both of the same context,
and its first connection stays open. -/
structure IsOf (context : String) (n l m : Nat) : Prop where
  /-- It listens. -/
  subscribes : Subscribes p.first p.subscription context n l
  /-- It comes to the terminal. -/
  attaches : Attaches p.waited p.attachment context m
  /-- The connection of the listener does not end. -/
  stays : (p.between ++ p.after).all (!·.closes p.first.visits.length n l) = true

end Pairing

namespace Pairing

variable {p : Pairing}

lemma isKept_subscribed (p : Pairing) : ∃ lasts, IsKept lasts p.subscribed :=
  ⟨_, ((isKept_idle p.settings).evolve p.before).step p.subscription⟩

lemma isKept_waited (p : Pairing) : ∃ lasts, IsKept lasts p.waited := by
  obtain ⟨lasts, hsubscribed⟩ := p.isKept_subscribed
  exact ⟨_, hsubscribed.evolve p.between⟩

/-- The session of the listener goes through what happens at the gateway. -/
lemma session_subscribed (hp : p.IsOf context n l m) (ops : List Operation) :
    (p.subscribed.evolve ops).hub.session n =
      (p.subscribed.hub.session n).run (opsOn n p.subscribed ops) := by
  have hfirst := (isKept_idle p.settings).evolve p.before
  exact (hfirst.step p.subscription).session_evolve (hp.subscribes.spec hfirst).1.1 ops

/-- In all that happens the listener is not dismissed. -/
lemma IsOf.dismisses (hp : p.IsOf context n l m) :
    (opsOn n p.subscribed (p.between ++ p.attachment :: p.after)).all (!·.dismisses l) = true := by
  have hidle := isKept_idle p.settings
  have hfirst := hidle.evolve p.before
  have hnumbered := ((isNumbered_idle p.settings).evolve hidle p.before).step hfirst p.subscription
  have hk : p.subscribed.purposes[p.first.visits.length]? = some (Purpose.news n l) := by
    simp [purposes, subscribed, hp.subscribes.gets]
  refine hnumbered.dismisses_opsOn (hfirst.step p.subscription) hk ?_
  obtain ⟨path, starts, logCapacity, capacity, mode, readOnly, harrive, -⟩ := hp.attaches.asks
  simpa [harrive, Operation.closes] using hp.stays

/-- The terminal is one of the session of the listener just if that session has not ended. -/
lemma IsOf.eq_iff (hp : p.IsOf context n l m) :
    m = n ↔ (p.waited.hub.session n).isDestroyed = false := by
  obtain ⟨_, hsubscribed⟩ := p.isKept_subscribed
  obtain ⟨_, hwaited⟩ := p.isKept_waited
  have hlives := (hp.subscribes.spec ((isKept_idle p.settings).evolve p.before)).1
  have hinside : n < p.waited.hub.sessions.length :=
    Nat.lt_of_lt_of_le hlives.1 (hsubscribed.length_evolve p.between)
  have hm := (hp.attaches.spec hwaited).2
  constructor
  · rintro rfl
    have hready := (hwaited.isReady context).live
    rwa [← hm, session_findOrCreate hwaited.sound context hinside] at hready
  · intro hlive
    have hcontext : (p.waited.hub.session n).context = context := by
      rw [waited, session_subscribed hp, (hsubscribed.sound.sessions n).context_run]
      exact hlives.2.1
    rw [hm, (hwaited.sound.isFaithful hwaited.complete).same context n ⟨hinside, hcontext, hlive⟩]

end Pairing

/-- **A client has both connections to one session just if nothing ended that session in between.**
The session it came to listen to ends in between just if some operation concludes it: one after
which the session asks itself whether it goes on while no command runs and no driver is there,
however many listeners there are.  Then the terminal is that of another session, and the queue of
the listener is closed.  In any case the terminal is that of a session that lives, and the listener
is told every change that its session takes note of from the subscription on. -/
theorem pair_shares_iff_not_concluded (p : Pairing) (hp : p.IsOf context n l m) :
    let s := p.subscribed.hub.session n
    let ops := opsOn n p.subscribed (p.between ++ p.attachment :: p.after)
    p.attached.hub.LivesIn m context ∧
    (m = n ↔ ∀ earlier op later, opsOn n p.subscribed p.between = earlier ++ op :: later →
      ¬ (s.run earlier).Concludes op) ∧
    (m ≠ n → (p.attached.hub.session n).isDestroyed = true ∧
      (p.attached.hub.session n).listeners.isRegistered l = false) ∧
    p.last.hub.session n = s.run ops ∧ Session.told l s ops = s.reportedIn ops ∧
    (p.last.hub.session n).listeners.isRegistered l = !(p.last.hub.session n).isDestroyed := by
  intro s ops
  have hfirst := (isKept_idle p.settings).evolve p.before
  obtain ⟨_, hwaited⟩ := p.isKept_waited
  obtain ⟨hlives, hl⟩ := hp.subscribes.spec hfirst
  have hsound : s.IsSound true := (hfirst.step p.subscription).sound.sessions n
  have hlive : s.isDestroyed = false := hlives.2.2
  have htold : Session.Listener.fresh.isTold = !s.isDestroyed := by
    rw [hlive]
    rfl
  have hattached : p.attached.hub.session n =
      s.run (opsOn n p.subscribed (p.between ++ [p.attachment])) := by
    rw [← Pairing.session_subscribed hp, evolve_append]
    rfl
  have hwaitedn : p.waited.hub.session n = s.run (opsOn n p.subscribed p.between) :=
    Pairing.session_subscribed hp _
  have hlast : p.last.hub.session n = s.run ops := by
    rw [← Pairing.session_subscribed hp, evolve_append]
    rfl
  have hstay := hp.dismisses
  refine ⟨(hp.attaches.spec hwaited).1, ?_, fun hne => ?_, hlast, ?_, ?_⟩
  · rw [hp.eq_iff, hwaitedn, ← Bool.not_eq_true, hsound.isDestroyed_run, hlive]
    simp [s]
  · have hdead : (p.waited.hub.session n).isDestroyed = true := by
      rw [← Bool.not_eq_false]
      exact fun hcontra => hne (hp.eq_iff.2 hcontra)
    have hended : (p.attached.hub.session n).isDestroyed = true := by
      rw [hwaitedn] at hdead
      rw [hattached, opsOn_append, Session.run_append]
      exact ((hsound.run _).isDestroyed_run _).2 (Or.inl hdead)
    have hbefore : (opsOn n p.subscribed (p.between ++ [p.attachment])).all (!·.dismisses l) =
        true := by
      rw [← List.singleton_append, ← List.append_assoc, opsOn_append, List.all_append,
        Bool.and_eq_true] at hstay
      exact hstay.1
    refine ⟨hended, ?_⟩
    rw [hattached] at hended ⊢
    rw [hsound.isRegistered_run hl htold hbefore, hended]
    rfl
  · rw [hsound.told_eq hl, List.takeWhile_eq_self_iff.2 (List.all_eq_true.1 hstay)]
    rfl
  · rw [hlast]
    exact hsound.isRegistered_run hl htold hstay

/-- While the client waits, somebody else comes, starts a command and leaves.  The command keeps the
session, and its end is the last change that the listener is told. -/
def handover : Pairing where
  settings := ⟨⟨.ok [], none⟩, 4⟩
  before := []
  subscription := .arrive "/socket/process-status-updates/x" (.ok ()) none 4
  between := [.arrive "/socket/term/x" (.ok ()) none 4, .pump 0 (.status 1 .new .running),
    .depart 1]
  attachment := .arrive "/socket/text/x" (.ok ()) none 4
  after := [.pump 0 (.status 1 .running .done)]

theorem pair_shares_handover :
    handover.IsOf "x" 0 0 0 ∧
    let s := handover.subscribed.hub.session 0
    let ops := opsOn 0 handover.subscribed
      (handover.between ++ handover.attachment :: handover.after)
    handover.attached.hub.LivesIn 0 "x" ∧
    (∀ earlier op later, opsOn 0 handover.subscribed handover.between = earlier ++ op :: later →
      ¬ (s.run earlier).Concludes op) ∧
    Session.told 0 s ops = [⟨"1", .new, .running, "x"⟩, ⟨"1", .running, .done, "x"⟩] := by
  have hp : handover.IsOf "x" 0 0 0 :=
    ⟨⟨⟨_, _, _, _, rfl, by decide⟩, by decide⟩, ⟨⟨_, _, _, _, .text, false, rfl, by decide⟩,
      ⟨1, true, .text, by decide⟩⟩, by decide⟩
  obtain ⟨hlives, hiff, -, -, htold, -⟩ := pair_shares_iff_not_concluded handover hp
  exact ⟨hp, hlives, hiff.1 rfl, htold.trans (by decide)⟩

/-- While the client waits, somebody else listens and leaves. -/
def parting : Pairing where
  settings := ⟨⟨.ok [], none⟩, 4⟩
  before := []
  subscription := .arrive "/socket/process-status-updates/x" (.ok ()) none 4
  between := [.arrive "/socket/process-status-updates/x" (.ok ()) none 4, .depart 1]
  attachment := .arrive "/socket/term/x" (.ok ()) none 4
  after := []

/-- A listener that leaves before any driver has come ends the session of the others. -/
theorem not_forall_pair_shares :
    ¬ ∀ (p : Pairing) (context : String) (n l m : Nat), p.IsOf context n l m → m = n := by
  intro h
  have hp : parting.IsOf "x" 0 0 1 :=
    ⟨⟨⟨_, _, _, _, rfl, by decide⟩, by decide⟩, ⟨⟨_, _, _, _, .binary, false, rfl, by decide⟩,
      ⟨0, true, .binary, by decide⟩⟩, by decide⟩
  exact absurd (h parting "x" 0 0 1 hp) (by decide)

end SharedTerminal.Gateway
