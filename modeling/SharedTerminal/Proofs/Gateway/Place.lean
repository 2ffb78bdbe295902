import SharedTerminal.Proofs.Gateway.Operation

/-!
# What uses a session

A session is created for whoever comes first, and it has to end by itself once nobody can use it.
`IsUsed` says who that may be while it lives: the visitor that drives it; those who are there before
any driver came, each in its place; or, when the driver has left, the command that its engine
reported last.

Each kind of step preserves this for the session that it is about, if that lives on
(`IsUsed.transit`, `IsUsed.pump`, `IsUsed.depart`, `IsFit.arrive`), and for the other ones
(`IsUsed.depart_elsewhere`, `IsUsed.arrive_elsewhere`).
-/

namespace SharedTerminal.Gateway

open Session (Channel)

variable {s : Session} {visits : List Visit} {k n : Nat} {purpose : Purpose}
  {last : Option Task.Status}

/-! ## Places -/

/-- A visitor has its place in a session: a seat under its name, or a number on the register. -/
inductive IsPlaced (k : Nat) (s : Session) : Purpose → Prop where
  /-- It drives. -/
  | driving {n i : Nat} {mode : Mode} {seat : Session.Seat} (hseat : s.seats[i]? = some seat)
      (hrole : seat.role = .driver) (hname : seat.channel.id = channelName k) :
      IsPlaced k s (.terminal n i true mode)
  /-- It observes. -/
  | watching {n i : Nat} {mode : Mode} {seat : Session.Seat} (hseat : s.seats[i]? = some seat)
      (hrole : seat.role = .observer) (hname : seat.channel.id = channelName k) :
      IsPlaced k s (.terminal n i false mode)
  /-- It listens. -/
  | listening {n i : Nat} {l : Session.Listener} (hl : s.listeners.all[i]? = some l)
      (hreg : l.registered = true) : IsPlaced k s (.news n i)

/-- A visitor that leaves its place makes the session ask itself whether it goes on. -/
lemma IsPlaced.reviews (h : IsPlaced k s purpose) : s.reviews (purpose.leaving k) = true := by
  cases h with
  | driving hseat hrole hname | watching hseat hrole hname =>
    exact List.any_eq_true.2
      ⟨_, List.mem_of_getElem? hseat, by simp [Session.Seat.isNamed, hrole, hname]⟩
  | listening hl hreg =>
    exact (Session.isRegistered_eq_true_iff _ _).2 ⟨_, hl, hreg⟩

/-- When the driver leaves its place, there is no driver. -/
lemma IsPlaced.presence_of_drives (h : IsPlaced k s purpose) (hdrives : purpose.drives = true) :
    s.presence (purpose.leaving k) = Session.Lifecycle.leave s.lifecycle.driver := by
  have hreviews := h.reviews
  cases h with
  | driving hseat hrole hname => exact if_pos hreviews
  | _ => simp [Purpose.drives] at hdrives

/-- A place is kept in the operations that spare it. -/
lemma IsPlaced.step (h : IsPlaced k s purpose) (hs : s.IsOpen true) {op : Session.Operation}
    (hlive : (s.step op).isDestroyed = false) (hop : op.spares (channelName k) = true) :
    IsPlaced k (s.step op) purpose := by
  cases h with
  | driving hseat hrole hname =>
    rw [← hname] at hop
    exact .driving (Session.getElem?_step_of_live hs hlive hseat)
      ((Session.role_touch_of_spares hop s _).trans hrole) ((Session.touch_id s op _ _).trans hname)
  | watching hseat hrole hname =>
    rw [← hname] at hop
    exact .watching (Session.getElem?_step_of_live hs hlive hseat)
      ((Session.role_touch_of_spares hop s _).trans hrole) ((Session.touch_id s op _ _).trans hname)
  | listening hl hreg =>
    have hnext := Session.getElem?_listeners_step hs hl op
    rw [hlive] at hnext
    exact .listening hnext ((Session.registered_attend_of_spares hop _ _).trans hreg)

/-- The driver keeps its place as long as the session knows of a driver. -/
lemma IsPlaced.step_of_drives (h : IsPlaced k s purpose) (hdrives : purpose.drives = true)
    (hs : s.IsOpen true) {op : Session.Operation} (hlive : (s.step op).isDestroyed = false)
    (hstill : s.presence op = .attached) : IsPlaced k (s.step op) purpose := by
  cases h with
  | driving hseat hrole hname =>
    exact .driving (Session.getElem?_step_of_live hs hlive hseat)
      (Session.role_touch_of_driver hseat hrole hstill) ((Session.touch_id s op _ _).trans hname)
  | _ => simp [Purpose.drives] at hdrives

/-! ## What uses a session -/

/-- What is known of a session that lives, of those who came to it and of its engine. -/
structure IsFit (visits : List Visit) (n : Nat) (s : Session) (last : Option Task.Status) :
    Prop where
  /-- A command runs if the engine said so last. -/
  active : s.lifecycle.active = last.any fun status => !status.isFinal
  /-- Without a driver there was no engine to say anything. -/
  silent : s.lifecycle.driver = .never → last = none
  /-- A driver is a visitor that is still there. -/
  driven : s.lifecycle.driver = .attached → ∃ k visit, visits[k]? = some visit ∧ visit.IsAt n ∧
    visit.purpose.drives = true ∧ IsPlaced k s visit.purpose
  /-- Until a driver comes, whoever is there has its place. -/
  held : s.lifecycle.driver = .never → ∀ k visit, visits[k]? = some visit → visit.IsAt n →
    IsPlaced k s visit.purpose

/-- A session that lives has a use: also until a driver comes, somebody is there. -/
structure IsUsed (visits : List Visit) (n : Nat) (s : Session) (last : Option Task.Status) : Prop
    extends IsFit visits n s last where
  /-- Until a driver comes, somebody is there. -/
  visited : s.lifecycle.driver = .never → ∃ visit ∈ visits, visit.IsAt n

/-- A visitor is still there, or a command runs. -/
lemma IsUsed.exists_or_running (h : IsUsed visits n s last) (hs : s.IsOpen true) :
    (∃ visit ∈ visits, visit.IsAt n) ∨ ∃ status, last = some status ∧ status.isFinal = false := by
  rcases hp : s.lifecycle.driver with _ | _ | _
  · exact Or.inl (h.visited hp)
  · obtain ⟨k, visit, hvisit, hat, _⟩ := h.driven hp
    exact Or.inl ⟨visit, List.mem_of_getElem? hvisit, hat⟩
  · have hactive := hs.used hp
    rw [h.active, Option.any_eq_true_iff_get] at hactive
    obtain ⟨hsome, hrunning⟩ := hactive
    exact Or.inr ⟨last.get hsome, by simp, by simpa using hrunning⟩

/-! ## The session that a step is about -/

variable {op : Session.Operation} {visit : Visit}

lemma spares_of_isQuiet (hq : op.isQuiet = true) (name : String) : op.spares name = true := by
  cases op <;> first | rfl | simp [Session.Operation.isQuiet] at hq

/-- Whoever drove and is still known to drive has its place. -/
lemma IsFit.driven_step (h : IsFit visits n s last) (hs : s.IsOpen true)
    (hlive : (s.step op).isDestroyed = false) (hstill : s.presence op = .attached)
    (hbefore : s.lifecycle.driver = .attached) :
    ∃ k visit, visits[k]? = some visit ∧ visit.IsAt n ∧ visit.purpose.drives = true ∧
      IsPlaced k (s.step op) visit.purpose := by
  obtain ⟨k, visit, hvisit, hat, hdrives, hplaced⟩ := h.driven hbefore
  exact ⟨k, visit, hvisit, hat, hdrives, hplaced.step_of_drives hdrives hs hlive hstill⟩

/-- What is in transit changes nothing in the use of a session. -/
lemma IsUsed.transit (h : IsUsed visits n s last) (hs : s.IsOpen true) (hq : op.isQuiet = true) :
    IsUsed visits n (s.step op) last := by
  have hsame := (Session.alike_step hq s).lifecycle
  have hlive : (s.step op).isDestroyed = false := ((Session.alike_step hq s).isOpen hs).unmarked
  have hkept : ∀ k purpose, IsPlaced k s purpose → IsPlaced k (s.step op) purpose :=
    fun k _ hplaced => hplaced.step hs hlive (spares_of_isQuiet hq (channelName k))
  refine ⟨⟨?_, ?_, ?_, ?_⟩, ?_⟩
  · rw [hsame, h.active]
  · rw [hsame]
    exact h.silent
  · intro hd
    rw [hsame] at hd
    obtain ⟨k, visit, hvisit, hat, hdrives, hplaced⟩ := h.driven hd
    exact ⟨k, visit, hvisit, hat, hdrives, hkept k _ hplaced⟩
  · intro hd k visit hvisit hat
    rw [hsame] at hd
    exact hkept k _ (h.held hd k visit hvisit hat)
  · rw [hsame]
    exact h.visited

/-- The status that an event of an engine reports. -/
def status? : Engine.Event → Option Task.Status
  | .output _ => none
  | .status _ _ after => some after

/-- What an engine reports decides whether a command runs. -/
lemma IsUsed.pump (h : IsUsed visits n s last) (hs : s.IsOpen true)
    (hp : s.process.isSome = true) {context : String} {event : Engine.Event}
    (hlive : (s.step (.ofEvent context event)).isDestroyed = false) :
    IsUsed visits n (s.step (.ofEvent context event)) ((status? event).or last) := by
  have hlife := hs.lifecycle_step hlive
  -- A session with an engine has had a driver.
  have hnever : (s.step (.ofEvent context event)).lifecycle.driver ≠ .never := by
    intro hd
    rw [hlife] at hd
    have hbefore := Session.presence_of_never hd
    rw [hs.engaged, hbefore] at hp
    exact absurd hp (by decide)
  refine ⟨⟨?_, fun hd => absurd hd hnever, ?_, fun hd => absurd hd hnever⟩,
    fun hd => absurd hd hnever⟩
  · rw [hlife]
    cases event with
    | output bytes => exact h.active
    | status task before after => rfl
  · intro hd
    rw [hlife] at hd
    refine h.driven_step hs hlive hd ((Session.presence_of_attached hd).resolve_right ?_)
    rintro ⟨c, startup, hop⟩
    cases event <;> cases hop

/-- The visitor, no longer there. -/
def Visit.over (visit : Visit) : Visit := { visit with speaking := false, listening := false }

lemma not_isAt_over (visit : Visit) (n : Nat) : ¬ visit.over.IsAt n := by
  simp [Visit.IsAt, Visit.over]

/-- If no driver ever came, the first visitor that leaves ends the session; if one did, the driver
that is known is somebody else. -/
lemma IsUsed.depart (h : IsUsed visits n s last) (hs : s.IsOpen true)
    (hk : visits[k]? = some visit) (hat : visit.IsAt n)
    (hlive : (s.step (visit.purpose.leaving k)).isDestroyed = false) :
    IsUsed (visits.modify k Visit.over) n (s.step (visit.purpose.leaving k)) last := by
  have hlife := hs.lifecycle_step hlive
  have hactivity : s.activity (visit.purpose.leaving k) = s.lifecycle.active := by
    rw [Session.activity, change?_leaving, Option.elim_none]
  have hnever : (s.step (visit.purpose.leaving k)).lifecycle.driver ≠ .never := by
    intro hd
    rw [hlife] at hd
    have hbefore := Session.presence_of_never hd
    have hplaced := h.held hbefore k visit hk hat
    have hidle : s.lifecycle.active = false := by
      rw [h.active, h.silent hbefore]
      rfl
    have habandoned : (s.prepared (visit.purpose.leaving k)).lifecycle.isAbandoned = true := by
      rw [Session.lifecycle_prepared, hactivity, hidle, show s.presence _ = _ from hd]
      rfl
    have hends := (hs.isDestroyed_step_iff _).2 (Or.inr ⟨hplaced.reviews, habandoned⟩)
    simp [hlive] at hends
  refine ⟨⟨?_, fun hd => absurd hd hnever, ?_, fun hd => absurd hd hnever⟩,
    fun hd => absurd hd hnever⟩
  · rw [hlife, ← h.active]
    exact hactivity
  · intro hd
    rw [hlife] at hd
    have hbefore : s.lifecycle.driver = .attached := by
      refine (Session.presence_of_attached hd).resolve_right ?_
      rintro ⟨c, startup, hop⟩
      exact leaving_ne_attachDriver k visit.purpose c startup hop
    obtain ⟨j, driver, hdriver, hdat, hdrives, hplaced⟩ := h.driven hbefore
    have hne : k ≠ j := by
      rintro rfl
      obtain rfl : visit = driver := Option.some.inj (hk.symm.trans hdriver)
      have hleft := hplaced.presence_of_drives hdrives
      rw [hbefore] at hleft
      exact absurd (hleft.symm.trans hd) (by decide)
    refine ⟨j, driver, ?_, hdat, hdrives, hplaced.step_of_drives hdrives hs hlive hd⟩
    simp [hne, hdriver]

/-- An operation takes a visitor with a number in for what it came for. -/
structure Admits (k n : Nat) (s : Session) (op : Session.Operation) (purpose : Purpose) :
    Prop where
  /-- The session goes on. -/
  live : (s.step op).isDestroyed = false
  /-- Those who came before keep their places. -/
  spares : ∀ j < k, op.spares (channelName j) = true
  /-- It is no report. -/
  change : op.change? = none
  /-- The visitor is at the session, -/
  here : purpose.session? = some n
  /-- and has its place. -/
  placed : IsPlaced k (s.step op) purpose
  /-- Who becomes the driver is the visitor. -/
  driver : s.presence op = .attached → s.lifecycle.driver = .attached ∨ purpose.drives = true

lemma IsFit.arrive (h : IsFit visits n s last) (hs : s.IsOpen true)
    (ha : Admits visits.length n s op purpose) :
    IsUsed (visits ++ [⟨purpose, true, true⟩]) n (s.step op) last := by
  have hlife := hs.lifecycle_step ha.live
  have hactivity : s.activity op = s.lifecycle.active := by
    rw [Session.activity, ha.change, Option.elim_none]
  have hnew : (visits ++ [⟨purpose, true, true⟩])[visits.length]? =
      some (⟨purpose, true, true⟩ : Visit) := by simp
  have hold : ∀ {k : Nat} {visit : Visit}, visits[k]? = some visit →
      (visits ++ [⟨purpose, true, true⟩])[k]? = some visit := by
    intro k visit hvisit
    rw [List.getElem?_append_left (List.getElem?_eq_some_iff.1 hvisit).1, hvisit]
  refine ⟨⟨?_, ?_, ?_, ?_⟩, ?_⟩
  · rw [hlife, ← h.active]
    exact hactivity
  · intro hd
    rw [hlife] at hd
    exact h.silent (Session.presence_of_never hd)
  · intro hd
    rw [hlife] at hd
    rcases ha.driver hd with hbefore | hdrives
    · obtain ⟨k, visit, hvisit, hat, hdrives, hplaced⟩ := h.driven_step hs ha.live hd hbefore
      exact ⟨k, visit, hold hvisit, hat, hdrives, hplaced⟩
    · exact ⟨visits.length, _, hnew, ⟨rfl, ha.here⟩, hdrives, ha.placed⟩
  · intro hd k visit hvisit hat
    rw [hlife] at hd
    rcases Nat.lt_trichotomy k visits.length with hlt | rfl | hgt
    · rw [List.getElem?_append_left hlt] at hvisit
      exact (h.held (Session.presence_of_never hd) k visit hvisit hat).step hs ha.live
        (ha.spares k hlt)
    · obtain rfl : (⟨purpose, true, true⟩ : Visit) = visit :=
        Option.some.inj (hnew.symm.trans hvisit)
      exact ha.placed
    · rw [List.getElem?_eq_none (by simp; omega)] at hvisit
      simp at hvisit
  · exact fun _ => ⟨_, List.mem_of_getElem? hnew, rfl, ha.here⟩

/-! ## The other sessions -/

/-- What happens to visitors elsewhere does not matter to a session. -/
lemma IsUsed.of_visits (h : IsUsed visits n s last) {others : List Visit}
    (hkept : ∀ (k : Nat) (visit : Visit), visit.IsAt n →
      (others[k]? = some visit ↔ visits[k]? = some visit)) :
    IsUsed others n s last where
  active := h.active
  silent := h.silent
  driven hd := by
    obtain ⟨k, visit, hvisit, hat, hdrives, hplaced⟩ := h.driven hd
    exact ⟨k, visit, (hkept k visit hat).2 hvisit, hat, hdrives, hplaced⟩
  held hd k visit hvisit hat := h.held hd k visit ((hkept k visit hat).1 hvisit) hat
  visited hd := by
    obtain ⟨visit, hmem, hat⟩ := h.visited hd
    obtain ⟨k, hvisit⟩ := List.getElem?_of_mem hmem
    exact ⟨visit, List.mem_of_getElem? ((hkept k visit hat).2 hvisit), hat⟩

lemma IsUsed.depart_elsewhere (h : IsUsed visits n s last) (hk : visits[k]? = some visit)
    (hat : ¬ visit.IsAt n) : IsUsed (visits.modify k Visit.over) n s last := by
  refine h.of_visits fun j other hother => ?_
  by_cases hj : k = j
  · subst hj
    have hne : visit ≠ other := fun heq => hat (heq ▸ hother)
    have hover : visit.over ≠ other := fun heq => not_isAt_over visit n (heq ▸ hother)
    simp [hk, hne, hover]
  · simp [hj]

lemma IsUsed.arrive_elsewhere (h : IsUsed visits n s last) (hat : ¬ visit.IsAt n) :
    IsUsed (visits ++ [visit]) n s last := by
  refine h.of_visits fun j other hother => ?_
  rcases Nat.lt_trichotomy j visits.length with hlt | rfl | hgt
  · rw [List.getElem?_append_left hlt]
  · have hne : visit ≠ other := fun heq => hat (heq ▸ hother)
    simp [hne]
  · rw [List.getElem?_eq_none (by simp; omega), List.getElem?_eq_none (by omega)]

end SharedTerminal.Gateway
