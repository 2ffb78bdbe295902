import SharedTerminal.Proofs.Session.Absence

/-!
# Observers do not interfere

An observer that is slow, goes away or is detached makes its session ask itself whether it goes on,
and it may do so in the middle of a write in which the driver is lost as well.  Still nobody else
can tell that it was there.  The `history` of a run with an observer and of the same run without it
agree, moment by moment, in the answer of every operation and in the state after it, but for the
seat of the observer.

One exception is due to the life of a session: while no driver is attached and no command runs, an
observer that leaves ends the session.  The main statement, `history_without_observer`, is about
observers that leave at other times.
-/

namespace SharedTerminal.Session

variable {s : Session} {given : Bool} {k : Nat} {seat : Seat} {op : Operation}

/-! ## Moments -/

/-- One operation in a run, with its answer. -/
structure Moment where
  /-- The session before the operation. -/
  before : Session
  /-- The operation. -/
  op : Operation
  /-- Its answer. -/
  answer : Answer
  /-- The session after it. -/
  after : Session

/-- The moments of a run. -/
def history (s : Session) : List Operation → List Moment
  | [] => []
  | op :: ops => ⟨s, op, (s.perform op).2, s.step op⟩ :: history (s.step op) ops

/-- A moment as if the channel with a seat and a name had never come.  Nothing is left of one that
is only about the channel. -/
def Moment.without (k : Nat) (name : String) (m : Moment) : Option Moment :=
  (m.op.without k name).map fun op => ⟨m.before.without k, op, m.answer, m.after.without k⟩

/-- What can be asked of a session at any time, the number of its observers aside. -/
structure Outlook where
  /-- Whether the session has ended. -/
  isDestroyed : Bool
  /-- Its phase. -/
  phase : Phase
  /-- Whether a command runs. -/
  isActive : Bool
  /-- Whether there is a driver. -/
  hasDriver : Bool
  /-- The channel that drives. -/
  driver : Option Channel
  /-- How many listeners there are. -/
  listeners : Nat

/-- The outlook of a session. -/
def outlook (s : Session) : Outlook :=
  ⟨s.isDestroyed, s.phase, s.isActive, s.hasDriver, s.driver?, s.listenerCount⟩

lemma outlook_without (hk : s.seats[k]? = some seat) (hrole : seat.role ≠ .driver) :
    (s.without k).outlook = s.outlook := by
  have hdriver : (s.without k).driver? = s.driver? :=
    congrArg (Option.map Seat.channel) (find?_eraseIdx hk (by simpa using hrole))
  rw [outlook, hdriver]
  rfl

/-! ## The arrival of an observer -/

/-- Whoever comes to observe takes the last seat, whichever way it comes. -/
lemma Attaches.step_eq_seatObserver {c : Channel} (h : s.Attaches op c .observer) :
    s.step op = s.seatObserver c := by
  cases h with
  | @demoted _ startup h =>
    have heq := attachDriver_eq (live_of_attachDriver h) c startup
    rw [heq] at h
    simp only [step, perform, Prod.map_fst, id_eq, heq]
    rcases hp : s.lifecycle.driver with _ | _ | _
    · rcases ho : startup.outcome with e | u <;> simp [hp, ho] at h
    · rfl
    · simp [hp] at h
  | observing h => simp [step, perform, attachObserver, live_of_attachObserver h]

/-- An observer with a name of its own changes nothing by its arrival. -/
lemma Attaches.without_step {c : Channel} (h : s.Attaches op c .observer)
    (hown : c.id ∉ ((s.step op).without s.seats.length).ids) :
    (s.step op).without s.seats.length = s := by
  have hvacate : (s.seatObserver c).without s.seats.length = s.vacate .observer c.id := by
    simp [seatObserver, without, vacate, List.eraseIdx_append_of_length_le]
  rw [h.step_eq_seatObserver, hvacate] at hown ⊢
  rw [ids_vacate] at hown
  exact vacate_of_not_mem hown .observer

/-! ## One step -/

lemma touch_role_eq_or (s : Session) (op : Operation) (k : Nat) (seat : Seat) :
    (s.touch op k seat).role = seat.role ∨ (s.touch op k seat).role = .released := by
  cases op with
  | write chunk =>
    simp only [touch, Seat.offer_role]
    split <;> simp
  | changeStatus change =>
    simp only [touch, Seat.offerObserver]
    split
    · split
      · rw [Seat.offer_role]
        split <;> simp
      · exact Or.inl rfl
    · exact Or.inl rfl
  | _ =>
    simp only [touch]
    try split
    all_goals simp

/-- A channel that does not drive keeps its seat and does not come to drive. -/
lemma role_step_ne_driver (h : s.IsSound given) (hk : s.seats[k]? = some seat)
    (hrole : seat.role ≠ .driver) {next : Seat} (hnext : (s.step op).seats[k]? = some next) :
    next.role ≠ .driver := by
  have htouch : (s.touch op k seat).role ≠ .driver := by
    rcases touch_role_eq_or s op k seat with hr | hr <;> simp [hr, hrole]
  rcases h with h | h
  · rw [getElem?_step h hk op, Option.some.injEq] at hnext
    subst hnext
    split
    · simp
    · exact htouch
  · rw [getElem?_step_of_isClosed h hk op, Option.some.injEq] at hnext
    subst hnext
    split
    · exact htouch
    · exact hrole

lemma ids_without (s : Session) (k : Nat) : (s.without k).ids = s.ids.eraseIdx k := by
  simp [ids, without, List.eraseIdx_map]

/-- A name that is the channel's own at the end of a run was so all the time. -/
lemma not_mem_ids_without_of_run {name : String} (h : s.IsSound given) {ops : List Operation}
    (hown : name ∉ ((s.run ops).without k).ids) : name ∉ (s.without k).ids := by
  rw [ids_without] at hown ⊢
  exact fun hmem => hown (((ids_run h ops).eraseIdx k).subset hmem)

lemma isAbandoned_eq_false_of_used (h : s.isActive = true ∨ s.hasDriver = true) :
    s.lifecycle.isAbandoned = false := by
  rcases h with h | h
  · simp [Lifecycle.isAbandoned, show s.lifecycle.active = true from h]
  · have hdriver : s.lifecycle.driver = .attached := by simpa [hasDriver] using h
    simp [Lifecycle.isAbandoned, hdriver]

/-! ## Whole runs -/

/-- **A run with a channel that does not drive and the run without it agree**, if the session has
another use whenever the channel leaves. -/
theorem history_without (h : s.IsSound given) (hk : s.seats[k]? = some seat)
    (hrole : seat.role ≠ .driver) (ops : List Operation)
    (hown : seat.channel.id ∉ ((s.run ops).without k).ids)
    (hkept : ∀ m ∈ s.history ops, m.before.leaves k m.op = true →
      m.before.isActive = true ∨ m.before.hasDriver = true) :
    let remaining := ops.filterMap (Operation.without k seat.channel.id)
    (s.without k).history remaining =
        (s.history ops).filterMap (Moment.without k seat.channel.id) ∧
      (s.without k).run remaining = (s.run ops).without k ∧
      ∀ m ∈ s.history ops, (m.after.without k).outlook = m.after.outlook := by
  intro remaining
  induction ops generalizing s seat with
  | nil => exact ⟨rfl, rfl, by simp [history]⟩
  | cons op ops ih =>
    -- The channel keeps its seat and its name, whatever becomes of its role.
    obtain ⟨next, hnext, hid, _⟩ := exists_seat_step h hk op
    have hrole' := role_step_ne_driver h hk hrole hnext
    have hused : s.leaves k op = true → s.lifecycle.isAbandoned = false := fun hl =>
      isAbandoned_eq_false_of_used (hkept ⟨s, op, _, _⟩ List.mem_cons_self hl)
    have hrest := ih (h.step op) hnext hrole' (by rwa [hid])
      fun m hm => hkept m (List.mem_cons_of_mem _ hm)
    rw [hid] at hrest
    obtain ⟨hhistory, hrun, houtlook⟩ := hrest
    have hlooks : ∀ m ∈ s.history (op :: ops),
        (m.after.without k).outlook = m.after.outlook := by
      rintro m (_ | ⟨_, hm⟩)
      · exact outlook_without hnext hrole'
      · exact houtlook m hm
    rcases hop : op.without k seat.channel.id with _ | op'
    · -- The operation is the channel's own affair, and nothing is left of it.
      have hsame := without_step_of_own hk (not_mem_ids_without_of_run h hown) hused hop
      have hgone : remaining = ops.filterMap (Operation.without k seat.channel.id) :=
        List.filterMap_cons_none hop
      rw [hsame] at hhistory hrun
      rw [hgone, hhistory, hrun]
      exact ⟨by simp [history, Moment.without, hop], rfl, hlooks⟩
    · -- Both sides do the same, and go on from there.
      have hperform := perform_without hk hrole hused hop
      have hstep : (s.without k).step op' = (s.step op).without k := by
        rw [step, hperform]
        rfl
      have hanswer : ((s.without k).perform op').2 = (s.perform op).2 := by
        rw [hperform]
        rfl
      have hthere : remaining = op' :: ops.filterMap (Operation.without k seat.channel.id) :=
        List.filterMap_cons_some hop
      rw [hthere, history, run_cons, hstep, hanswer, hhistory, hrun]
      exact ⟨by simp [history, Moment.without, hop], rfl, hlooks⟩

/-- **Observers do not interfere.**  Take a run in which an observer with a name of its own is
attached, whether it asked to observe or to drive, and in which a driver is attached or a command
runs whenever the observer is detached or refuses a chunk of output.  Leave out its arrival, the
operations of its consumer and its leaving.  Then every other operation gets the same answer, and
the session after it is the same but for the seat of the observer: its lifecycle, what is delivered
to the driver, to the other observers, to the log, to the listeners and to the engine, and whatever
can be asked of it except how many observe. -/
theorem history_without_observer (context : String) (given : Bool)
    (before after : List Operation) {attach : Operation} {o : Channel}
    (hattach : ((fresh context given).run before).Attaches attach o .observer)
    (hown : o.id ∉ (((fresh context given).run (before ++ attach :: after)).without
      ((fresh context given).run before).seats.length).ids)
    (hkept : ∀ m ∈ ((fresh context given).run (before ++ [attach])).history after,
      m.before.leaves ((fresh context given).run before).seats.length m.op = true →
        m.before.isActive = true ∨ m.before.hasDriver = true) :
    let s := (fresh context given).run before
    let k := s.seats.length
    let remaining := after.filterMap (Operation.without k o.id)
    let moments := (s.step attach).history after
    s.history remaining = moments.filterMap (Moment.without k o.id) ∧
      s.run remaining = ((s.step attach).run after).without k ∧
      ∀ m ∈ moments, (m.after.without k).outlook = m.after.outlook := by
  intro s k remaining moments
  have hsound : s.IsSound given := sound_run context given before
  rw [run_append, run_cons] at hown
  rw [run_append, run_cons, run_nil] at hkept
  have hthere := history_without (hsound.step attach) hattach.getElem?_step (by simp) after hown
    hkept
  have hbefore : (s.step attach).without k = s :=
    hattach.without_step (not_mem_ids_without_of_run (hsound.step attach) hown)
  rw [hbefore] at hthere
  exact hthere

/-- A guest that came to drive and has room for one chunk is let go at the second, next to a driver
that is lost in the same write while a command runs. -/
theorem history_without_full_guest :
    let s := (fresh "work").run [.attachDriver (.fresh "typist" 1) ⟨.ok (), none⟩,
      .changeStatus ⟨"1", .new, .running, "work"⟩]
    let moments := (s.step (.attachDriver (.fresh "guest" 1) ⟨.ok (), none⟩)).history
      [.attachObserver (.fresh "pupil" 2), .write [65], .write [66], .receive 1 none,
        .receive 2 none, .changeStatus ⟨"1", .running, .done, "work"⟩, .detachObserver "guest"]
    s.history [.attachObserver (.fresh "pupil" 2), .write [65], .write [66], .receive 1 none,
      .changeStatus ⟨"1", .running, .done, "work"⟩] =
      moments.filterMap (Moment.without 1 "guest") := by
  have hattach : ((fresh "work").run [.attachDriver (.fresh "typist" 1) ⟨.ok (), none⟩,
      .changeStatus ⟨"1", .new, .running, "work"⟩]).Attaches
        (.attachDriver (.fresh "guest" 1) ⟨.ok (), none⟩) (.fresh "guest" 1) .observer :=
    .demoted rfl
  exact (history_without_observer "work" true _
    [.attachObserver (.fresh "pupil" 2), .write [65], .write [66], .receive 1 none,
      .receive 2 none, .changeStatus ⟨"1", .running, .done, "work"⟩, .detachObserver "guest"]
    hattach (by decide) (by decide)).1

/-- An observer that leaves a session which nobody uses ends it. -/
example :
    ((fresh "work").run [.attachObserver (.fresh "guest" 1), .detachObserver "guest"]).isDestroyed =
      true := by
  decide

end SharedTerminal.Session
