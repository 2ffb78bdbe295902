import SharedTerminal.Proofs.Gateway.Place

/-!
# No session is left behind

A visitor that comes finds the session of its context or gets a new one, and nobody but those who
leave and the engine that reports makes a session end.  `IsKept` says that still every session that
lives has a use, whatever happened at the gateway so far; `IsReady` is what holds in the middle of
an arrival, when the session was found or created and the visitor is not in it yet.

The step is `IsKept.step`, and the main statement is `evolve_leaves_none_behind`.  There, who is
still connected is told by the steps: a visitor came, and its connection has not ended since.
-/

namespace SharedTerminal.Gateway

open Session (Channel)

variable {g : Gateway} {hub : Hub} {s : Session} {visits : List Visit} {k n : Nat}
  {purpose : Purpose} {last : Option Task.Status} {op : Session.Operation}

/-! ## All sessions -/

variable {lasts : Nat → Option Task.Status}

/-- Every session that lives has a use.  `lasts` tells what the engine of each reported last. -/
structure IsKept (lasts : Nat → Option Task.Status) (g : Gateway) : Prop where
  /-- The register agrees with the sessions. -/
  sound : g.hub.IsSound
  /-- All that live are registered. -/
  complete : g.hub.IsComplete
  /-- Visitors came to sessions that there are. -/
  bound : ∀ visit ∈ g.visits, ∀ n, visit.purpose.session? = some n → n < g.hub.sessions.length
  /-- Only they have engines. -/
  unborn : ∀ n, g.hub.sessions.length ≤ n → lasts n = none
  /-- Each that lives has a use. -/
  used : ∀ n < g.hub.sessions.length, (g.hub.session n).isDestroyed = false →
    IsUsed g.visits n (g.hub.session n) (lasts n)

/-- The same, but for one session that lives and that a visitor is about to come to. -/
structure IsReady (lasts : Nat → Option Task.Status) (visits : List Visit) (hub : Hub) (n : Nat) :
    Prop where
  /-- The register agrees with the sessions. -/
  sound : hub.IsSound
  /-- All that live are registered. -/
  complete : hub.IsComplete
  /-- Visitors came to sessions that there are. -/
  bound : ∀ visit ∈ visits, ∀ m, visit.purpose.session? = some m → m < hub.sessions.length
  /-- Only they have engines. -/
  unborn : ∀ m, hub.sessions.length ≤ m → lasts m = none
  /-- The session is one of them, -/
  inside : n < hub.sessions.length
  /-- and it lives. -/
  live : (hub.session n).isDestroyed = false
  /-- It may be new. -/
  fit : IsFit visits n (hub.session n) (lasts n)
  /-- The others have a use. -/
  others : ∀ m < hub.sessions.length, m ≠ n → (hub.session m).isDestroyed = false →
    IsUsed visits m (hub.session m) (lasts m)

lemma isKept_idle (settings : Settings) : IsKept (fun _ => none) (idle settings) where
  sound := Hub.isSound_empty
  complete := Hub.isComplete_empty
  bound := by simp [idle]
  unborn _ _ := rfl
  used := by simp [idle, Hub.empty]

/-- After an operation on one session, that one is to be looked at and the others are as they
were. -/
lemma isKept_on {next : Gateway} (hsound : hub.IsSound) (hcomplete : hub.IsComplete)
    (hhub : ∃ processes files, next.hub =
      { hub.step (.on n op) with processes := processes, files := files })
    (hbound : ∀ visit ∈ next.visits, ∀ m, visit.purpose.session? = some m →
      m < hub.sessions.length)
    (hunborn : ∀ m, hub.sessions.length ≤ m → lasts m = none)
    (hothers : ∀ m < hub.sessions.length, m ≠ n → (hub.session m).isDestroyed = false →
      IsUsed next.visits m (hub.session m) (lasts m))
    (hself : n < hub.sessions.length → (hub.session n).isDestroyed = false →
      ((hub.session n).step op).isDestroyed = false →
      IsUsed next.visits n ((hub.session n).step op) (lasts n)) : IsKept lasts next := by
  obtain ⟨processes, files, hhub⟩ := hhub
  have hlength : next.hub.sessions.length = hub.sessions.length := by
    rw [hhub]
    exact Hub.length_on hub n op
  have hsame : ∀ m, next.hub.session m = (hub.step (.on n op)).session m := by
    intro m
    rw [hhub]
    rfl
  have hs := hsound.on n op
  have hc := hcomplete.on hsound n op
  refine ⟨?_, ?_, ?_, ?_, ?_⟩
  · rw [hhub]
    exact ⟨hs.sessions, hs.keys, hs.bound, hs.own, hs.live⟩
  · rw [hhub]
    exact hc
  · rw [hlength]
    exact hbound
  · rw [hlength]
    exact hunborn
  · rw [hlength]
    intro m hm hlive
    rw [hsame] at hlive ⊢
    by_cases hmn : m = n
    · subst hmn
      rw [Hub.session_on hm] at hlive ⊢
      refine hself hm ?_ hlive
      rcases hd : (hub.session m).isDestroyed with _ | _
      · rfl
      · rw [((hsound.sessions m).isDestroyed_step op).2 (Or.inl hd)] at hlive
        exact absurd hlive (by decide)
    · rw [Hub.session_on_of_ne hmn] at hlive ⊢
      exact hothers m hm hmn hlive

/-! ## Those who leave, and the engines -/

lemma IsKept.transit (h : IsKept lasts g) (n : Nat) (hq : op.isQuiet = true) :
    IsKept lasts { g with hub := g.hub.step (.on n op) } := by
  refine isKept_on h.sound h.complete ⟨_, _, rfl⟩ h.bound h.unborn
    (fun m hm _ => h.used m hm) fun hn hbefore _ => ?_
  exact (h.used n hn hbefore).transit ((h.sound.sessions n).isOpen hbefore) hq

/-- What an engine reports is remembered for its session. -/
lemma IsKept.pump (h : IsKept lasts g) {n : Nat}
    (hp : (g.hub.session n).process.isSome = true) (event : Engine.Event) :
    IsKept (fun m => if m = n then (status? event).or (lasts m) else lasts m)
      { g with hub := g.hub.modify n (·.handle event) } := by
  have hn : n < g.hub.sessions.length := by
    by_contra hle
    rw [Hub.session_of_le (by omega)] at hp
    exact absurd hp (by decide)
  rw [hub_pump]
  refine isKept_on h.sound h.complete ⟨_, _, rfl⟩ h.bound ?_ ?_ ?_
  · intro m hm
    rw [if_neg (by omega)]
    exact h.unborn m hm
  · intro m hm hmn hlive
    rw [if_neg hmn]
    exact h.used m hm hlive
  · intro _ hbefore hlive
    rw [if_pos rfl]
    exact (h.used n hn hbefore).pump ((h.sound.sessions n).isOpen hbefore) hp hlive

lemma IsKept.depart (h : IsKept lasts g) (k : Nat) : IsKept lasts (g.depart k) := by
  unfold Gateway.depart
  split
  · exact h
  · next visit hk =>
    split
    · next hlistening =>
      have hbound : ∀ other ∈ g.visits.modify k Visit.over, ∀ n,
          other.purpose.session? = some n → n < g.hub.sessions.length := by
        intro other hother n hn
        obtain ⟨j, hj⟩ := List.getElem?_of_mem hother
        rw [List.getElem?_modify] at hj
        obtain ⟨before, hbefore, rfl⟩ := Option.map_eq_some_iff.1 hj
        refine h.bound before (List.mem_of_getElem? hbefore) n ?_
        split at hn <;> exact hn
      rcases hsession : visit.purpose.session? with _ | n
      · -- The visitor came to no session, and there is nothing to let go.
        rw [release_of_session?_eq_none g k hsession]
        refine ⟨h.sound, h.complete, hbound, h.unborn, fun m hm hlive => ?_⟩
        exact (h.used m hm hlive).depart_elsewhere hk fun hat => by
          simp [Visit.IsAt, hsession] at hat
      · rw [hub_release g k hsession]
        have hat : visit.IsAt n := ⟨hlistening, hsession⟩
        refine isKept_on h.sound h.complete ⟨_, _, rfl⟩ hbound h.unborn ?_ ?_
        · intro m hm hmn hlive
          refine (h.used m hm hlive).depart_elsewhere hk fun hother => hmn ?_
          exact Option.some.inj (hother.2.symm.trans hsession)
        · intro hn hbefore hlive
          exact (h.used n hn hbefore).depart ((h.sound.sessions n).isOpen hbefore) hk hat hlive
    · exact h

/-! ## Those who come -/

lemma IsKept.enroll_nothing (h : IsKept lasts g) (reason : String) :
    IsKept lasts (g.enroll (.nothing reason)).1 where
  sound := h.sound
  complete := h.complete
  bound visit hvisit n hn := by
    rcases List.mem_append.1 hvisit with hold | hnew
    · exact h.bound visit hold n hn
    · obtain rfl := List.mem_singleton.1 hnew
      simp [Purpose.session?] at hn
  unborn := h.unborn
  used n hn hlive := (h.used n hn hlive).arrive_elsewhere fun hat => by
    simp [Visit.IsAt, Purpose.session?] at hat

/-- A session that is asked for lives; if it is new, nobody has come to it yet. -/
lemma IsKept.isReady (h : IsKept lasts g) (context : String) :
    IsReady lasts g.visits (g.hub.findOrCreate context).1 (g.hub.findOrCreate context).2 := by
  have hs := h.sound.findOrCreate context
  have hc := h.complete.findOrCreate h.sound context
  obtain ⟨hinside, -, hlive⟩ := (h.sound.isFaithful h.complete).gets context
  rcases hfound : g.hub.find? context with _ | n
  · rw [h.sound.findOrCreate_of_none hfound] at hs hc hinside hlive ⊢
    have hfresh : ({ g.hub with
        sessions := g.hub.sessions ++ [.fresh context]
        entries := g.hub.entries ++ [(context, g.hub.sessions.length)] } : Hub).session
          g.hub.sessions.length = .fresh context := by
      rw [Hub.session_append, if_pos rfl]
    refine ⟨hs, hc, ?_, ?_, hinside, hlive, ⟨?_, ?_, ?_, ?_⟩, ?_⟩
    · intro visit hvisit m hm
      have hlt := h.bound visit hvisit m hm
      simp
      omega
    · intro m hm
      simp only [List.length_append, List.length_singleton] at hm
      exact h.unborn m (by omega)
    · rw [hfresh, h.unborn _ (Nat.le_refl _)]
      rfl
    · exact fun _ => h.unborn _ (Nat.le_refl _)
    · rw [hfresh]
      intro hd
      cases hd
    · intro _ k visit hvisit hat
      have hlt := h.bound visit (List.mem_of_getElem? hvisit) _ hat.2
      omega
    · intro m hm hne hlive'
      rw [Hub.session_append, if_neg hne] at hlive' ⊢
      simp only [List.length_append, List.length_singleton] at hm
      exact h.used m (by omega) hlive'
  · rw [Hub.findOrCreate_of_some hfound] at hinside hlive ⊢
    exact ⟨h.sound, h.complete, h.bound, h.unborn, hinside, hlive,
      (h.used n hinside hlive).toIsFit, fun m hm _ => h.used m hm⟩

/-- A visitor is taken in. -/
lemma IsReady.admit (h : IsReady lasts g.visits hub n)
    (ha : Admits g.visits.length n (hub.session n) op purpose) {next : Hub}
    (hnext : ∃ processes files, next =
      { hub.step (.on n op) with processes := processes, files := files }) :
    IsKept lasts ({ g with hub := next }.enroll purpose).1 := by
  refine isKept_on h.sound h.complete hnext ?_ h.unborn ?_ ?_
  · intro visit hvisit m hm
    rcases List.mem_append.1 hvisit with hold | hnew
    · exact h.bound visit hold m hm
    · obtain rfl := List.mem_singleton.1 hnew
      obtain rfl : n = m := Option.some.inj (ha.here.symm.trans hm)
      exact h.inside
  · intro m hm hmn hlive
    refine (h.others m hm hmn hlive).arrive_elsewhere fun hat => hmn ?_
    exact Option.some.inj (hat.2.symm.trans ha.here)
  · intro _ hlive _
    exact h.fit.arrive ((h.sound.sessions n).isOpen hlive) ha

/-- A visitor is not taken in, and the session that it came for is no more. -/
lemma IsReady.refuse (h : IsReady lasts g.visits hub n)
    (hends : ((hub.session n).step op).isDestroyed = true) {next : Hub}
    (hnext : ∃ processes files, next =
      { hub.step (.on n op) with processes := processes, files := files }) :
    IsKept lasts { g with hub := next } := by
  refine isKept_on h.sound h.complete hnext h.bound h.unborn h.others fun _ _ hlive => ?_
  rw [hends] at hlive
  exact absurd hlive (by decide)

variable {c : Channel}

lemma admits_attachObserver (hs : s.IsOpen true) (hname : c.id = channelName k) (n : Nat)
    (mode : Mode) :
    Admits k n s (.attachObserver c) (.terminal n s.seats.length false mode) := by
  have hok : (s.attachObserver c).2 = .ok () := by simp [Session.attachObserver, hs.live]
  refine ⟨hs.isSound.isDestroyed_attachObserver hok, ?_, rfl, rfl, ?_, Or.inl⟩
  · intro j hj
    simp [Session.Operation.spares, hname, channelName_inj]
    omega
  · exact .watching (Session.Attaches.observing hok).getElem?_step rfl hname

lemma admits_attachDriver (hs : s.IsOpen true) (hname : c.id = channelName k) (n : Nat)
    (mode : Mode) {startup : Session.Startup} {a : Session.Attachment}
    (hok : (s.attachDriver c startup).2 = .ok a) :
    Admits k n s (.attachDriver c startup) (.terminal n s.seats.length (a = .driving) mode) := by
  refine ⟨hs.isSound.isDestroyed_attachDriver hok, ?_, rfl, rfl, ?_, ?_⟩
  · intro j hj
    simp [Session.Operation.spares, hname, channelName_inj]
    omega
  · cases a with
    | driving => exact .driving (Session.Attaches.driving hok).getElem?_step rfl hname
    | observing => exact .watching (Session.Attaches.demoted hok).getElem?_step rfl hname
  · intro _
    cases a with
    | driving => exact Or.inr rfl
    | observing =>
      -- Only where somebody drives is a visitor demoted.
      rw [Session.attachDriver_eq hs.live] at hok
      rcases hp : s.lifecycle.driver with _ | _ | _
      · rcases ho : startup.outcome with e | u <;> simp [hp, ho] at hok
      · exact Or.inl rfl
      · simp [hp] at hok

lemma admits_subscribe (hs : s.IsOpen true) (k n : Nat) {i : Nat}
    (hok : s.subscribe.2 = .ok i) : Admits k n s .subscribe (.news n i) :=
  ⟨hs.isSound.isDestroyed_subscribe hok, fun _ _ => rfl, rfl, rfl,
    .listening (Session.getElem?_of_subscribe hok) rfl, Or.inl⟩

/-- A session whose engine cannot be started has no use. -/
lemma IsFit.isDestroyed_attachDriver (h : IsFit visits n s last) (hs : s.IsOpen true)
    {startup : Session.Startup} {e : Session.Error}
    (he : (s.attachDriver c startup).2 = .error e) :
    (s.step (.attachDriver c startup)).isDestroyed = true := by
  rw [Session.attachDriver_eq hs.live] at he
  rcases hp : s.lifecycle.driver with _ | _ | _
  · rcases ho : startup.outcome with e | u
    · have hidle : s.lifecycle.active = false := by
        rw [h.active, h.silent hp]
        rfl
      have hreviews : s.reviews (.attachDriver c startup) = true := by
        simp [Session.reviews, hp, ho, Except.isOk, Except.toBool]
      refine (hs.isDestroyed_step_iff _).2 (Or.inr ⟨hreviews, ?_⟩)
      simp [Session.prepared, Session.moved, hp, ho, Session.Lifecycle.isAbandoned, hidle]
    · simp [hp, ho] at he
  · simp [hp] at he
  · simp [hp] at he

/-- Whatever comes of an attempt to let somebody in, every session that lives has a use. -/
def KeepsAll (lasts : Nat → Option Task.Status) (g : Gateway)
    (result : Hub × Except Session.Error Purpose) : Prop :=
  (∀ purpose, result.2 = .ok purpose → IsKept lasts ({ g with hub := result.1 }.enroll purpose).1) ∧
    ∀ e, result.2 = .error e → IsKept lasts { g with hub := result.1 }

lemma IsKept.seatIn (h : IsKept lasts g)
    (hstart : ∀ events, g.settings.hub.start = .ok events → events = []) (context : String)
    (mode : Mode) (readOnly : Bool) : KeepsAll lasts g (g.seatIn context mode readOnly) := by
  have hready := h.isReady context
  have hs := (hready.sound.sessions _).isOpen hready.live
  rcases hfound : g.hub.findOrCreate context with ⟨hub, n⟩
  simp only [hfound] at hready hs
  have hname : (Channel.fresh g.nextName g.settings.capacity).id = channelName g.visits.length :=
    rfl
  simp only [Gateway.seatIn, hfound]
  generalize Channel.fresh g.nextName g.settings.capacity = c at hname
  cases readOnly with
  | true =>
    have hok : ((hub.session n).attachObserver c).2 = .ok () := by
      simp [Session.attachObserver, hs.live]
    simp only [if_true, Hub.run, hok]
    constructor
    · rintro purpose ⟨⟩
      exact hready.admit (admits_attachObserver hs hname n mode) ⟨_, _, rfl⟩
    · rintro e ⟨⟩
  | false =>
    obtain ⟨processes, files, heq⟩ := attachDriver_eq hub hstart n c
    simp only [Bool.false_eq_true, if_false, heq]
    rcases hout : ((hub.session n).attachDriver c g.settings.hub.startup).2 with e | a
    · constructor
      · rintro purpose ⟨⟩
      · rintro e' ⟨⟩
        exact hready.refuse (hready.fit.isDestroyed_attachDriver hs hout) ⟨_, _, rfl⟩
    · constructor
      · rintro purpose ⟨⟩
        exact hready.admit (admits_attachDriver hs hname n mode hout) ⟨_, _, rfl⟩
      · rintro e ⟨⟩

lemma IsKept.subscribeTo (h : IsKept lasts g) (context : String) :
    KeepsAll lasts g (g.subscribeTo context) := by
  have hready := h.isReady context
  have hs := (hready.sound.sessions _).isOpen hready.live
  rcases hfound : g.hub.findOrCreate context with ⟨hub, n⟩
  simp only [hfound] at hready hs
  simp only [Gateway.subscribeTo, hfound, Hub.run]
  rcases hout : (hub.session n).subscribe.2 with e | i
  · -- A session that lives takes every listener.
    simp [Session.subscribe, hs.live] at hout
  · constructor
    · rintro purpose ⟨⟩
      exact hready.admit (admits_subscribe hs g.visits.length n hout) ⟨_, _, rfl⟩
    · rintro e ⟨⟩

/-- A second attempt begins where the first has left off. -/
lemma IsKept.persist (h : IsKept lasts g)
    (attempt : Gateway → Hub × Except Session.Error Purpose)
    (hattempt : ∀ hub, IsKept lasts { g with hub := hub } →
      KeepsAll lasts g (attempt { g with hub := hub })) : KeepsAll lasts g (g.persist attempt) := by
  have hfirst : KeepsAll lasts g (attempt g) := hattempt g.hub h
  unfold Gateway.persist
  split
  · next hub context heq =>
    rw [heq] at hfirst
    exact hattempt hub (hfirst.2 _ rfl)
  · exact hfirst

lemma IsKept.welcome (h : IsKept lasts g)
    (hstart : ∀ events, g.settings.hub.start = .ok events → events = []) {path : String}
    {next : Gateway} {k : Nat} (hnext : g.welcome path = .ok (next, k)) : IsKept lasts next := by
  unfold Gateway.welcome at hnext
  split at hnext
  · cases hnext
  · next endpoint _ =>
    cases endpoint with
    | command context mode readOnly =>
      have hkeeps := h.persist (·.seatIn context mode readOnly) fun _ hhub =>
        hhub.seatIn hstart context mode readOnly
      dsimp only at hnext
      generalize g.persist (·.seatIn context mode readOnly) = result at hkeeps hnext
      obtain ⟨hub, e | purpose⟩ := result
      · cases hnext
        exact (hkeeps.2 e rfl).enroll_nothing e.message
      · cases hnext
        exact hkeeps.1 purpose rfl
    | status context =>
      have hkeeps := h.persist (·.subscribeTo context) fun _ hhub => hhub.subscribeTo context
      dsimp only at hnext
      generalize g.persist (·.subscribeTo context) = result at hkeeps hnext
      obtain ⟨hub, e | purpose⟩ := result
      · cases hnext
        exact (hkeeps.2 e rfl).enroll_nothing e.message
      · cases hnext
        exact hkeeps.1 purpose rfl

/-! ## Whole runs -/

/-- What the engine of each session reported last, after a step. -/
lemma IsKept.step (h : IsKept lasts g) (op : Operation) :
    IsKept (fun n => (reported n g op).or (lasts n)) (g.step op) := by
  cases op with
  | arrive path starts logCapacity capacity =>
    simp only [Gateway.step, reported, Option.none_or]
    split
    · next next k hnext =>
      -- What an arrival is told of engines matters to no session that lives already.
      have hkept : IsKept lasts { g with
          settings := ⟨⟨starts.map fun _ => [], logCapacity⟩, capacity⟩ } :=
        ⟨h.sound, h.complete, h.bound, h.unborn, h.used⟩
      refine hkept.welcome (fun events hevents => ?_) hnext
      cases starts with
      | ok u => cases hevents; rfl
      | error e => cases hevents
    · exact h
  | depart k => exact h.depart k
  | pump n event =>
    simp only [Gateway.step]
    split
    · next hp =>
      have hsame : (fun m => (reported m g (.pump n event)).or (lasts m)) =
          fun m => if m = n then (status? event).or (lasts m) else lasts m := by
        funext m
        cases event with
        | output bytes => simp [reported, status?]
        | status task before after =>
          by_cases hm : m = n
          · simp [reported, status?, hm, hp]
          · simp [reported, hm, Ne.symm hm]
      rw [hsame]
      exact h.pump hp event
    · next hp =>
      have hsame : (fun m => (reported m g (.pump n event)).or (lasts m)) = lasts := by
        funext m
        cases event <;> simp [reported, hp]
      rw [hsame]
      exact h
  | transit n op hq => exact h.transit n hq

lemma IsKept.evolve (h : IsKept lasts g) (ops : List Operation) :
    IsKept (fun n => (reportedIn n g ops).getLast?.or (lasts n)) (g.evolve ops) := by
  induction ops generalizing g lasts with
  | nil => exact h
  | cons op ops ih =>
    have hsame : (fun n => (reportedIn n g (op :: ops)).getLast?.or (lasts n)) =
        fun n => (reportedIn n (g.step op) ops).getLast?.or ((reported n g op).or (lasts n)) := by
      funext n
      rw [reportedIn, List.getLast?_append, Option.or_assoc]
      rcases reported n g op with _ | status <;> rfl
    rw [hsame]
    exact ih (h.step op)

/-- The context that a visitor came for. -/
def contextOf (g : Gateway) (visit : Visit) : Option String :=
  visit.purpose.session?.map fun n => (g.hub.session n).context

/-- **No session is left behind.**  After any sequence of steps, every session that is registered
has a visitor that came and did not leave since, or its engine reported last that a command runs.
So if no connection of a context is still open, and no command runs in it, no session is registered
for it. -/
theorem evolve_leaves_none_behind (settings : Settings) (ops : List Operation) :
    let g := (idle settings).evolve ops
    (∀ context n, (context, n) ∈ g.hub.entries →
      (∃ k visit, g.visits[k]? = some visit ∧ ¬ (idle settings).HasLeft k ops ∧
        g.contextOf visit = some context) ∨
      ∃ status, (reportedIn n (idle settings) ops).getLast? = some status ∧
        status.isFinal = false) ∧
    (∀ context,
      (∀ k visit, g.visits[k]? = some visit → ¬ (idle settings).HasLeft k ops →
        g.contextOf visit ≠ some context) →
      (∀ n, (context, n) ∈ g.hub.entries → ∀ status,
        (reportedIn n (idle settings) ops).getLast? = some status → status.isFinal = true) →
      context ∉ g.hub.contexts ∧ g.hub.contains context = false) := by
  intro g
  have hkept := (isKept_idle settings).evolve ops
  have hused : ∀ context n, (context, n) ∈ g.hub.entries →
      (∃ k visit, g.visits[k]? = some visit ∧ ¬ (idle settings).HasLeft k ops ∧
        g.contextOf visit = some context) ∨
      ∃ status, (reportedIn n (idle settings) ops).getLast? = some status ∧
        status.isFinal = false := by
    intro context n hmem
    have hown := hkept.sound.own context n hmem
    have hlive := hkept.sound.live context n hmem
    have hused := hkept.used n (hkept.sound.bound context n hmem) hlive
    rcases hused.exists_or_running ((hkept.sound.sessions n).isOpen hlive) with
      ⟨visit, hvisit, hlistening, hsession⟩ | ⟨status, hlast, hrunning⟩
    · obtain ⟨k, hk⟩ := List.mem_iff_getElem?.1 hvisit
      have hlistens : g.listensTo k = true := by
        rw [listensTo, hk]
        exact hlistening
      refine Or.inl ⟨k, visit, hk, ((listensTo_evolve_idle settings ops k).1 hlistens).2, ?_⟩
      rw [contextOf, hsession, Option.map_some, hown]
    · rw [Option.or_none] at hlast
      exact Or.inr ⟨status, hlast, hrunning⟩
  refine ⟨hused, fun context hgone hfinal => ?_⟩
  have hnone : ∀ n, (context, n) ∉ g.hub.entries := by
    intro n hmem
    rcases hused context n hmem with ⟨k, visit, hk, hstays, hat⟩ | ⟨status, hlast, hrunning⟩
    · exact hgone k visit hk hstays hat
    · rw [hfinal n hmem status hlast] at hrunning
      exact absurd hrunning (by decide)
  refine ⟨?_, ?_⟩
  · rw [Hub.mem_contexts_iff]
    rintro ⟨n, hmem⟩
    exact hnone n hmem
  · rw [Hub.contains, (hkept.sound.find?_eq_none_iff context).2 hnone]
    rfl

/-- A session outlives its driver as long as its command runs. -/
example :
    let before := (idle ⟨⟨.ok [], none⟩, 4⟩).evolve [.arrive "/socket/term/work" (.ok ()) none 4,
      .pump 0 (.status 1 .new .running), .depart 0]
    before.hub.entries = [("work", 0)] ∧
      (before.step (.pump 0 (.status 1 .running .done))).hub.entries = [] := by
  decide

end SharedTerminal.Gateway
