import SharedTerminal.Proofs.Session.Invariant

/-!
# The end of a session

A session ends in the middle of other operations: someone leaves, a chunk finds no room, a task
comes to its end.  `Concludes` names the operations that end it, and `IsSound.isDestroyed_step`
says that these do and no others.  `run_consistent` puts it together with what a session holds
before and after.
-/

namespace SharedTerminal.Session

variable {s : Session} {given : Bool}

/-- An operation concludes a session if it tells it to end, or makes it ask itself whether it goes
on when no command runs and no driver is there. -/
def Concludes (s : Session) (op : Operation) : Prop :=
  op = .shutdown ∨
    s.reviews op = true ∧ (s.step op).isActive = false ∧ (s.step op).hasDriver = false

lemma Standing.isDestroyed_settled (h : s.Standing given) :
    s.settled.isDestroyed = true ↔
      s.settled.isActive = false ∧ s.settled.hasDriver = false := by
  have hsound := h.settled.isDestroyed_eq
  rw [hsound, settled_destroyed, h.live]
  simp [isActive, hasDriver, Lifecycle.isAbandoned]

/-- A session ends with the operations that conclude it and with no others. -/
lemma IsSound.isDestroyed_step (h : s.IsSound given) (op : Operation) :
    (s.step op).isDestroyed = true ↔ s.isDestroyed = true ∨ s.Concludes op := by
  rcases h with h | h
  · have hlive : s.isDestroyed = false := h.unmarked
    simp only [hlive, Bool.false_eq_true, false_or]
    by_cases hop : op = .shutdown
    · subst hop
      have hmark : (s.step .shutdown).isDestroyed = true := h.toStanding.shutdown.marked
      simp [hmark, Concludes]
    · rcases hq : op.isQuiet with _ | _
      · rcases hr : s.reviews op with _ | _
        · have hkept : (s.step op).isDestroyed = false := by
            rw [step_eq h.live hop, hr]
            exact (h.moved hop hq hr).unmarked
          simp [hkept, Concludes, hop, hr]
        · -- A session that asks itself ends just if it is abandoned after the change.
          have hsettled : s.step op = (s.moved op).settled := by
            rw [step_eq h.live hop, hr, if_pos rfl]
          rw [Concludes, hsettled, (h.toStanding.moved hop hq).isDestroyed_settled]
          simp [hop, hr]
      · have hkept : (s.step op).isDestroyed = false := ((alike_step hq s).isOpen h).unmarked
        have hr : s.reviews op = false := by
          cases op <;> simp_all [Operation.isQuiet, reviews]
        simp [hkept, Concludes, hop, hr]
  · have hmark : s.isDestroyed = true := h.marked
    have hstill : (s.step op).isDestroyed = true := (h.step op).marked
    simp [hmark, hstill]

/-- An operation ends an open session just if the session asks itself and is abandoned. -/
lemma IsOpen.isDestroyed_step_iff (h : s.IsOpen given) (op : Operation) :
    (s.step op).isDestroyed = true ↔
      op = .shutdown ∨ s.reviews op = true ∧ (s.prepared op).lifecycle.isAbandoned = true := by
  have hlive : s.isDestroyed = false := h.unmarked
  have hstep := h.step_eq_prepared op
  have hactive : (s.step op).isActive = (s.prepared op).lifecycle.active := by
    rw [hstep]
    split <;> rfl
  have hdriver : (s.step op).hasDriver = decide ((s.prepared op).lifecycle.driver = .attached) := by
    rw [hstep]
    split <;> rfl
  rw [h.isSound.isDestroyed_step, hlive, Concludes, hactive, hdriver]
  simp [Lifecycle.isAbandoned]

/-- A session has ended if one of the operations so far concluded it. -/
lemma IsSound.isDestroyed_run (h : s.IsSound given) (ops : List Operation) :
    (s.run ops).isDestroyed = true ↔
      s.isDestroyed = true ∨
        ∃ before op after, ops = before ++ op :: after ∧ (s.run before).Concludes op := by
  induction ops generalizing s with
  | nil => simp
  | cons first ops ih =>
    rw [run_cons, ih (h.step first), h.isDestroyed_step first, or_assoc]
    refine or_congr_right ⟨?_, ?_⟩
    · rintro (hfirst | ⟨before, op, after, rfl, hop⟩)
      · exact ⟨[], first, ops, rfl, hfirst⟩
      · exact ⟨first :: before, op, after, rfl, hop⟩
    · rintro ⟨before, op, after, heq, hop⟩
      cases before with
      | nil =>
        obtain ⟨rfl, rfl⟩ := List.cons.inj heq
        exact Or.inl hop
      | cons b before =>
        obtain ⟨rfl, rfl⟩ := List.cons.inj heq
        exact Or.inr ⟨before, op, after, rfl, hop⟩

/-- An operation that does not conclude a session leaves its mark as it is. -/
lemma IsSound.isDestroyed_step_eq (h : s.IsSound given) (op : Operation) (hop : op ≠ .shutdown)
    (hr : s.reviews op = false) : (s.step op).isDestroyed = s.isDestroyed := by
  rw [Bool.eq_iff_iff, h.isDestroyed_step op]
  simp [Concludes, hop, hr]

lemma IsSound.isDestroyed_attachDriver (h : s.IsSound given) {c : Channel} {startup : Startup}
    {a : Attachment} (ha : (s.attachDriver c startup).2 = .ok a) :
    (s.attachDriver c startup).1.isDestroyed = false := by
  have hlive := live_of_attachDriver ha
  have hr : s.reviews (.attachDriver c startup) = false := by
    rw [attachDriver_eq hlive] at ha
    rcases hp : s.lifecycle.driver with _ | _ | _
    · rcases ho : startup.outcome with e | u
      · simp [hp, ho] at ha
      · simp [reviews, ho, Except.isOk, Except.toBool]
    · simp [reviews, hp]
    · simp [reviews, hp]
  rw [← hlive, ← h.isDestroyed_eq]
  exact h.isDestroyed_step_eq (.attachDriver c startup) (by simp) hr

lemma IsSound.isDestroyed_attachObserver (h : s.IsSound given) {c : Channel}
    (ha : (s.attachObserver c).2 = .ok ()) : (s.attachObserver c).1.isDestroyed = false := by
  have hlive := live_of_attachObserver ha
  rw [← hlive, ← h.isDestroyed_eq]
  exact h.isDestroyed_step_eq (.attachObserver c) (by simp) rfl

lemma IsSound.isDestroyed_subscribe (h : s.IsSound given) {n : Nat}
    (ha : s.subscribe.2 = .ok n) : s.subscribe.1.isDestroyed = false := by
  have hlive : s.lifecycle.destroyed = false := by
    rw [← Bool.not_eq_true]
    intro hd
    simp [subscribe, hd] at ha
  rw [← hlive, ← h.isDestroyed_eq]
  exact h.isDestroyed_step_eq .subscribe (by simp) rfl

/-- A chunk that every attached channel takes does not end a session. -/
lemma IsSound.isDestroyed_write (h : s.IsSound given) {chunk : Bytes}
    (hall : ∀ seat ∈ s.seats, seat.role ≠ .released → seat.channel.accepts = true) :
    (s.write chunk).isDestroyed = s.isDestroyed := by
  -- Who is lost would have to refuse, and everyone has room.
  have hkept : ∀ role, role ≠ .released → s.loses role = false := by
    intro role hrole
    rw [loses, List.any_eq_false]
    intro seat hseat hlost
    simp only [Seat.isLost, Bool.and_eq_true, decide_eq_true_eq, Bool.not_eq_true'] at hlost
    have haccepts := hall seat hseat (by rw [hlost.1]; exact hrole)
    rw [haccepts] at hlost
    exact absurd hlost.2 (by decide)
  refine h.isDestroyed_step_eq (.write chunk) (by simp) ?_
  simp [reviews, hkept .driver (by decide), hkept .observer (by decide)]

/-! ## Context and farewell -/

lemma moved_context {op : Operation} (hop : op ≠ .shutdown) (hquiet : op.isQuiet = false) :
    (s.moved op).context = s.context := by
  cases op with
  | attachDriver c startup =>
    rcases hp : s.lifecycle.driver with _ | _ | _
    · rcases ho : startup.outcome with e | u
      · simp [moved, hp, ho]
      · simp [moved, hp, ho, started, driven, seatDriver]
    · simp [moved, hp, seatObserver]
    · simp [moved, hp, driven, seatDriver]
  | detachDriver name =>
    simp only [moved]
    split <;> rfl
  | detachObserver name =>
    simp only [moved]
    split <;> rfl
  | write chunk =>
    simp only [moved]
    split <;> rfl
  | subscribe =>
    simp only [moved, step, perform, subscribe]
    split <;> rfl
  | shutdown => exact absurd rfl hop
  | attachObserver | changeStatus | unsubscribe => rfl
  | _ => simp [Operation.isQuiet] at hquiet

/-- A session belongs to one context for good. -/
lemma IsSound.context_step (h : s.IsSound given) (op : Operation) :
    (s.step op).context = s.context := by
  rcases hq : op.isQuiet with _ | _
  · rcases h with h | h
    · by_cases hop : op = .shutdown
      · subst hop
        have hstep : s.step .shutdown = s.shutdown := rfl
        rw [hstep, shutdown_eq h.live]
        rfl
      · rw [step_eq h.live hop]
        split
        · rw [settled_context, moved_context hop hq]
        · exact moved_context hop hq
    · rw [h.step_eq_self hq]
  · exact (alike_step hq s).context

/-- A session says farewell in the operation that ends it, and in no other. -/
lemma IsSound.farewells_lt_step (h : s.IsSound true) (op : Operation) :
    s.farewells < (s.step op).farewells ↔
      s.isDestroyed = false ∧ (s.step op).isDestroyed = true := by
  -- A session that has ended said farewell once, and one that goes on did not.
  have hcount : ∀ t : Session, t.IsSound true → t.farewells = t.isDestroyed.toNat := by
    rintro t (ht | ht)
    · rw [ht.silent, isDestroyed, ht.unmarked]
      rfl
    · rw [ht.once, isDestroyed, ht.marked]
  rw [hcount s h, hcount _ (h.step op)]
  rcases s.isDestroyed with _ | _ <;> rcases (s.step op).isDestroyed with _ | _ <;> simp

/-! ## What can be seen from outside -/

lemma isSome_driver?_iff (s : Session) : s.driver?.isSome = true ↔ 0 < s.drivers := by
  simp [driver?, drivers, List.countP_pos_iff]

lemma Standing.isSome_driver? (h : s.Standing given) : s.driver?.isSome = s.hasDriver := by
  rw [Bool.eq_iff_iff, isSome_driver?_iff, h.manned]
  by_cases hd : s.lifecycle.driver = .attached
  · simp [hd, hasDriver]
  · simp [hd, hasDriver]

lemma IsClosed.driver?_eq_none (h : s.IsClosed given) : s.driver? = none := by
  rw [driver?, Option.map_eq_none_iff, List.find?_eq_none]
  intro seat hseat
  simp [h.vacant seat hseat]

lemma IsClosed.observerCount_eq_zero (h : s.IsClosed given) : s.observerCount = 0 := by
  rw [observerCount, List.countP_eq_zero]
  intro seat hseat
  simp [h.vacant seat hseat]

lemma IsClosed.listenerCount_eq_zero (h : s.IsClosed given) : s.listenerCount = 0 := by
  rw [listenerCount, Listeners.size, List.countP_eq_zero]
  intro l hl
  simp [h.unheard l hl]

lemma phase_eq_destroyed_iff (s : Session) :
    s.phase = .destroyed ↔ s.lifecycle.destroyed = true := by
  unfold phase Lifecycle.phase
  split
  · next h => simp [h]
  · next h =>
    split
    · simpa using h
    · split <;> simpa using h

/-- **What a session holds at any time, and when it ends.**  While it goes on, its parts agree and
the driver's place is taken as the lifecycle has it.  Once it has ended it holds nothing, whatever
is still done to it.  The mark, the lifecycle and the phase tell the same, and a session has ended
just if one of the operations so far concluded it; arrivals, subscriptions and chunks that
everyone takes do not. -/
theorem run_consistent (context : String) (given : Bool) (ops : List Operation) :
    let s := (fresh context given).run ops
    (s.isDestroyed = false → s.IsOpen given ∧ s.driver?.isSome = s.hasDriver) ∧
    (s.isDestroyed = true → ∀ more, (s.run more).IsClosed given ∧ (s.run more).driver? = none ∧
      (s.run more).observerCount = 0 ∧ (s.run more).listenerCount = 0) ∧
    (s.isDestroyed = s.lifecycle.destroyed ∧ (s.phase = .destroyed ↔ s.isDestroyed = true)) ∧
    (s.isDestroyed = true ↔ ∃ before op after, ops = before ++ op :: after ∧
      ((fresh context given).run before).Concludes op) ∧
    (∀ c startup a, (s.attachDriver c startup).2 = .ok a →
      (s.attachDriver c startup).1.isDestroyed = false) ∧
    (∀ c, (s.attachObserver c).2 = .ok () → (s.attachObserver c).1.isDestroyed = false) ∧
    (∀ n, s.subscribe.2 = .ok n → s.subscribe.1.isDestroyed = false) ∧
    (∀ chunk, (∀ seat ∈ s.seats, seat.role ≠ .released → seat.channel.accepts = true) →
      (s.write chunk).isDestroyed = s.isDestroyed) := by
  intro s
  have hs : s.IsSound given := sound_run context given ops
  refine ⟨?_, ?_, ⟨hs.isDestroyed_eq, ?_⟩, ?_, ?_, ?_, ?_, ?_⟩
  · intro hd
    exact ⟨hs.isOpen hd, (hs.isOpen hd).isSome_driver?⟩
  · intro hd more
    have hclosed := (hs.isClosed hd).run more
    exact ⟨hclosed, hclosed.driver?_eq_none, hclosed.observerCount_eq_zero,
      hclosed.listenerCount_eq_zero⟩
  · rw [hs.isDestroyed_eq]
    exact phase_eq_destroyed_iff s
  · have hfresh : (fresh context given).IsSound given := Or.inl (isOpen_fresh context given)
    have hlive : (fresh context given).isDestroyed = false := rfl
    rw [hfresh.isDestroyed_run ops]
    simp [hlive]
  · exact fun c startup a => hs.isDestroyed_attachDriver
  · exact fun c => hs.isDestroyed_attachObserver
  · exact fun n => hs.isDestroyed_subscribe
  · exact fun chunk => hs.isDestroyed_write

end SharedTerminal.Session
