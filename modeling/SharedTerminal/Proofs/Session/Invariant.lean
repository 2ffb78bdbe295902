import SharedTerminal.Proofs.Session.Seats
import Mathlib.Data.Option.Basic

/-!
# What every session holds

The lifecycle of a session and the things it holds are changed by different operations, some of
them in several places.  `IsOpen` says how they agree while the session goes on, `IsClosed` what is
left once it has ended; every session is in one of the two states at any time (`sound_run`).

An operation that changes what the session holds either leaves it open or makes it ask itself
whether it goes on, and `Standing` is what holds in between.  The other operations change only what
is in transit: for them, `Alike` says what stays.

The main statements are `sound_run` and `IsClosed.run`.
-/

namespace SharedTerminal.Session

variable {s t : Session} {given : Bool}

/-! ## Open and closed -/

/-- The parts of a session that goes on agree.  `given` tells whether someone wants to be told of
the end. -/
structure Standing (given : Bool) (s : Session) : Prop where
  /-- The lifecycle goes on. -/
  live : s.lifecycle.destroyed = false
  /-- Nobody sees a mark. -/
  unmarked : s.ended = false
  /-- There is a driver if the lifecycle knows of one, and never two. -/
  manned : s.drivers = if s.lifecycle.driver = .attached then 1 else 0
  /-- The engine was started for the first driver. -/
  engaged : s.process.isSome = (s.lifecycle.driver != .never)
  /-- It can be sent commands. -/
  linked : ∀ p ∈ s.process, p.linked = true
  /-- The farewell is still to be said. -/
  pending : s.farewellPending = given
  /-- It was not said before. -/
  silent : s.farewells = 0

/-- The session goes on, and someone can use it or has not come yet. -/
structure IsOpen (given : Bool) (s : Session) : Prop extends Standing given s where
  /-- Without the driver that it had, a command keeps it. -/
  used : s.lifecycle.driver = .departed → s.lifecycle.active = true

/-- The session has ended and let everything and everyone go. -/
structure IsClosed (given : Bool) (s : Session) : Prop where
  /-- The lifecycle has ended. -/
  finished : s.lifecycle.destroyed = true
  /-- Everyone sees the mark. -/
  marked : s.ended = true
  /-- All channels were let go. -/
  vacant : ∀ seat ∈ s.seats, seat.role = .released
  /-- So was the log. -/
  unlogged : ∀ c ∈ s.log, c.senderHeld = false
  /-- No listener is registered. -/
  unheard : ∀ l ∈ s.listeners.all, l.registered = false
  /-- The engine is forgotten. -/
  unlinked : ∀ p ∈ s.process, p.linked = false
  /-- No farewell is left to be said. -/
  told : s.farewellPending = false
  /-- It was said once, if to anyone. -/
  once : s.farewells = given.toNat

/-- The session is open or closed. -/
def IsSound (given : Bool) (s : Session) : Prop := s.IsOpen given ∨ s.IsClosed given

lemma IsOpen.isSound (h : s.IsOpen given) : s.IsSound given := Or.inl h

lemma IsClosed.isSound (h : s.IsClosed given) : s.IsSound given := Or.inr h

lemma IsSound.isDestroyed_eq (h : s.IsSound given) : s.isDestroyed = s.lifecycle.destroyed := by
  rcases h with h | h
  · exact h.unmarked.trans h.live.symm
  · exact h.marked.trans h.finished.symm

lemma IsSound.isOpen (h : s.IsSound given) (hd : s.isDestroyed = false) : s.IsOpen given := by
  rcases h with h | h
  · exact h
  · exact absurd h.marked (by simpa [isDestroyed] using hd)

lemma IsSound.isClosed (h : s.IsSound given) (hd : s.isDestroyed = true) :
    s.IsClosed given := by
  rcases h with h | h
  · exact absurd h.unmarked (by simpa [isDestroyed] using hd)
  · exact h

lemma isOpen_fresh (context : String) (given : Bool) : (fresh context given).IsOpen given where
  live := rfl
  unmarked := rfl
  manned := rfl
  engaged := rfl
  linked := by simp [fresh]
  pending := rfl
  silent := rfl
  used := by simp [fresh, Lifecycle.initial]

/-- Letting everything and everyone go closes a session. -/
lemma isClosed_dismantle (hended : s.lifecycle.destroyed = true)
    (hpending : s.farewellPending = given) (hsilent : s.farewells = 0) :
    s.dismantle.IsClosed given where
  finished := hended
  marked := rfl
  vacant := by
    intro seat hseat
    obtain ⟨before, _, rfl⟩ := List.mem_map.1 hseat
    exact Seat.release_role before
  unlogged := by
    intro c hc
    obtain ⟨before, _, rfl⟩ := Option.mem_map.1 hc
    rfl
  unheard := by
    intro l hl
    obtain ⟨before, _, rfl⟩ := List.mem_map.1 hl
    rfl
  unlinked := by
    intro p hp
    obtain ⟨before, _, rfl⟩ := Option.mem_map.1 hp
    unfold Process.unlink
    split
    · rfl
    · next h => simpa using h
  told := rfl
  once := by
    simp only [dismantle, hpending, hsilent]
    cases given <;> rfl

/-- A session that asks itself whether it goes on is open afterwards, or closed. -/
lemma Standing.settled (h : s.Standing given) : s.settled.IsSound given := by
  rcases ha : s.lifecycle.isAbandoned with _ | _
  · rw [settled_of_used ha]
    refine Or.inl ⟨h, fun hd => ?_⟩
    simpa [Lifecycle.isAbandoned, hd] using ha
  · rw [settled_of_abandoned ha]
    exact Or.inr (isClosed_dismantle rfl h.pending h.silent)

lemma Standing.shutdown (h : s.Standing given) : s.shutdown.IsClosed given := by
  rw [shutdown_eq h.live]
  exact isClosed_dismantle rfl h.pending h.silent

/-! ## What is only in transit -/

/-- Two sessions hold the same and differ at most in what is in transit. -/
structure Alike (s t : Session) : Prop where
  /-- The context stays. -/
  context : t.context = s.context
  /-- The lifecycle stays. -/
  lifecycle : t.lifecycle = s.lifecycle
  /-- The mark stays. -/
  ended : t.ended = s.ended
  /-- What each channel is attached for stays. -/
  roles : t.seats.map Seat.role = s.seats.map Seat.role
  /-- The hold on the log stays. -/
  log : t.log.map Channel.senderHeld = s.log.map Channel.senderHeld
  /-- The register of listeners stays. -/
  listeners : t.listeners.all.map Listener.registered = s.listeners.all.map Listener.registered
  /-- The link to the engine stays. -/
  process : t.process.map Process.linked = s.process.map Process.linked
  /-- The farewell stays pending, or not. -/
  pending : t.farewellPending = s.farewellPending
  /-- No farewell is said. -/
  farewells : t.farewells = s.farewells

namespace Alike

lemma refl (s : Session) : s.Alike s := ⟨rfl, rfl, rfl, rfl, rfl, rfl, rfl, rfl, rfl⟩

lemma drivers (h : s.Alike t) : t.drivers = s.drivers := by
  have hcount : ∀ u : Session, u.drivers = (u.seats.map Seat.role).countP (· = .driver) := by
    intro u
    rw [List.countP_map]
    rfl
  rw [hcount, hcount, h.roles]

lemma linked (h : s.Alike t) {b : Bool} :
    (∀ p ∈ t.process, p.linked = b) ↔ ∀ p ∈ s.process, p.linked = b := by
  rw [← Option.forall_mem_map (p := (· = b)), h.process, Option.forall_mem_map]

lemma isSome_process (h : s.Alike t) : t.process.isSome = s.process.isSome := by
  rw [← Option.isSome_map (f := Process.linked), h.process, Option.isSome_map]

lemma isOpen (h : s.Alike t) (hs : s.IsOpen given) : t.IsOpen given where
  live := by rw [h.lifecycle, hs.live]
  unmarked := by rw [h.ended, hs.unmarked]
  manned := by rw [h.drivers, h.lifecycle, hs.manned]
  engaged := by rw [h.isSome_process, h.lifecycle, hs.engaged]
  linked := h.linked.2 hs.linked
  pending := by rw [h.pending, hs.pending]
  silent := by rw [h.farewells, hs.silent]
  used := by
    rw [h.lifecycle]
    exact hs.used

lemma isClosed (h : s.Alike t) (hs : s.IsClosed given) : t.IsClosed given where
  finished := by rw [h.lifecycle, hs.finished]
  marked := by rw [h.ended, hs.marked]
  vacant := by
    rw [← List.forall_mem_map (f := Seat.role) (P := (· = .released)), h.roles, List.forall_mem_map]
    exact hs.vacant
  unlogged := by
    rw [← Option.forall_mem_map (f := Channel.senderHeld) (p := (· = false)), h.log,
      Option.forall_mem_map]
    exact hs.unlogged
  unheard := by
    rw [← List.forall_mem_map (f := Listener.registered) (P := (· = false)), h.listeners,
      List.forall_mem_map]
    exact hs.unheard
  unlinked := h.linked.2 hs.unlinked
  told := by rw [h.pending, hs.told]
  once := by rw [h.farewells, hs.once]

end Alike

/-- Whether an operation only moves what is in transit: chunks, changes and commands. -/
def Operation.isQuiet : Operation → Bool
  | .submit .. | .resize .. | .receive .. | .dropReceiver _ | .listen _ | .dropListener _
  | .takeCommands | .dropProcess | .flushLog => true
  | _ => false

/-- A change of one entry that keeps what is looked at. -/
lemma map_modify_of_eq {α β : Type} {f : α → α} {g : α → β} (hf : ∀ x, g (f x) = g x)
    (l : List α) (n : Nat) : (l.modify n f).map g = l.map g := by
  apply List.ext_getElem?
  intro i
  simp only [List.getElem?_map, List.getElem?_modify]
  rcases l[i]? with _ | x
  · rfl
  · simp only [Option.map_eq_map, Option.map_some]
    split
    · rw [hf]
    · rfl

lemma alike_modifyChannel (s : Session) (k : Nat) (f : Channel → Channel) :
    s.Alike (s.modifyChannel k f) :=
  { Alike.refl s with
    roles := map_modify_of_eq (f := fun seat => { seat with channel := f seat.channel })
      (fun _ => rfl) s.seats k }

lemma alike_modifyListener (s : Session) (n : Nat) {f : Listener → Listener}
    (hf : ∀ l, (f l).registered = l.registered) :
    s.Alike { s with listeners := ⟨s.listeners.all.modify n f⟩ } :=
  { Alike.refl s with listeners := map_modify_of_eq hf s.listeners.all n }

lemma alike_request (s : Session) (name : String) (command : Engine.Command) :
    s.Alike (s.request name command).1 := by
  unfold request
  split
  · exact Alike.refl s
  · next p hp =>
    split
    · -- The command goes to the engine that the session already had.
      refine { Alike.refl s with process := ?_ }
      have hsome : s.process = some p := by
        unfold drivenProcess at hp
        repeat' split at hp
        all_goals simp_all
      rw [hsome]
      simp only [Option.map_some, Process.tell]
      split <;> rfl
    · exact Alike.refl s

lemma alike_receive (s : Session) (k : Nat) (max : Option Nat) :
    s.Alike (s.receive k max).1 := by
  unfold receive
  split
  · exact Alike.refl s
  · next it _ =>
    split
    · exact alike_modifyChannel s k fun _ => (it.channel.receive max).1
    · exact Alike.refl s

lemma alike_dropReceiver (s : Session) (k : Nat) : s.Alike (s.dropReceiver k).1 := by
  unfold dropReceiver
  split
  · exact Alike.refl s
  · exact alike_modifyChannel s k _

lemma alike_listen (s : Session) (n : Nat) : s.Alike (s.listen n).1 := by
  change s.Alike { s with listeners := (s.listeners.receive n).1 }
  unfold Listeners.receive
  split
  · split
    · exact alike_modifyListener s n fun _ => rfl
    · exact Alike.refl s
  · exact Alike.refl s

lemma alike_dropListener (s : Session) (n : Nat) : s.Alike (s.dropListener n).1 := by
  change s.Alike { s with listeners := (s.listeners.dropReceiver n).1 }
  unfold Listeners.dropReceiver
  split
  · exact alike_modifyListener s n fun _ => rfl
  · exact Alike.refl s

lemma alike_takeCommands (s : Session) : s.Alike s.takeCommands.1 := by
  unfold takeCommands
  split
  · exact Alike.refl s
  · next p hp =>
    split
    · refine { Alike.refl s with process := ?_ }
      rw [hp]
      rfl
    · exact Alike.refl s

lemma alike_dropProcess (s : Session) : s.Alike s.dropProcess.1 := by
  unfold dropProcess
  split
  · exact Alike.refl s
  · next p hp =>
    refine { Alike.refl s with process := ?_ }
    rw [hp]
    rfl

lemma alike_flushLog (s : Session) : s.Alike s.flushLog.1 := by
  unfold flushLog
  split
  · exact Alike.refl s
  · next c hc =>
    refine { Alike.refl s with log := ?_ }
    rw [hc]
    rfl

lemma alike_step {op : Operation} (h : op.isQuiet = true) (s : Session) :
    s.Alike (s.step op) := by
  cases op with
  | submit name bytes => exact alike_request s name _
  | resize name cols rows => exact alike_request s name _
  | receive k max => exact alike_receive s k max
  | dropReceiver k => exact alike_dropReceiver s k
  | listen n => exact alike_listen s n
  | dropListener n => exact alike_dropListener s n
  | takeCommands => exact alike_takeCommands s
  | dropProcess => exact alike_dropProcess s
  | flushLog => exact alike_flushLog s
  | _ => simp [Operation.isQuiet] at h

/-! ## What one operation preserves -/

lemma Standing.drivers_le (h : s.Standing given) : s.drivers ≤ 1 := by
  rw [h.manned]
  split <;> omega

/-- A driver that leaves takes its place along. -/
lemma Standing.undriven (h : s.Standing given) {seats : List Seat} {log : Option Channel}
    (hnone : seats.countP (·.role = .driver) = 0) (hone : s.drivers = 1) :
    ({ s with seats := seats, log := log } : Session).undriven.Standing given := by
  have hattached : s.lifecycle.driver = .attached := by
    by_contra hne
    rw [h.manned, if_neg hne] at hone
    omega
  have hstarted : s.process.isSome = true := by
    rw [h.engaged, hattached]
    rfl
  exact {
    live := h.live
    unmarked := h.unmarked
    manned := by simpa [Session.undriven, drivers, hattached, Lifecycle.leave] using hnone
    engaged := by
      rw [Session.undriven, hattached]
      exact hstarted
    linked := h.linked
    pending := h.pending
    silent := h.silent }

/-- What only changes seats other than those of drivers, log, listeners and activity. -/
lemma Standing.of_drivers (h : s.Standing given) {seats : List Seat} {log : Option Channel}
    {listeners : Listeners} {active : Bool}
    (hsame : seats.countP (·.role = .driver) = s.drivers) :
    ({ s with
        lifecycle := { s.lifecycle with active := active }
        seats := seats
        log := log
        listeners := listeners } : Session).Standing given where
  live := h.live
  unmarked := h.unmarked
  manned := hsame.trans h.manned
  engaged := h.engaged
  linked := h.linked
  pending := h.pending
  silent := h.silent

lemma Standing.seatObserver (h : s.Standing given) (c : Channel) :
    (s.seatObserver c).Standing given :=
  h.of_drivers (drivers_seatObserver s c)

/-- The arrival of a driver where there is none. -/
lemma Standing.driven (h : s.Standing given) (hnot : s.lifecycle.driver ≠ .attached)
    {process : Option Process} {log : Option Channel} (hsome : process.isSome = true)
    (hlinked : ∀ p ∈ process, p.linked = true) (c : Channel) :
    ({ s.driven c with process := process, log := log } : Session).Standing given where
  live := h.live
  unmarked := h.unmarked
  manned := by
    have hnone : s.drivers = 0 := by rw [h.manned, if_neg hnot]
    exact (drivers_driven s c).trans (by rw [hnone]; rfl)
  engaged := hsome
  linked := hlinked
  pending := h.pending
  silent := h.silent

lemma Standing.moved (h : s.Standing given) {op : Operation} (hop : op ≠ .shutdown)
    (hquiet : op.isQuiet = false) : (s.moved op).Standing given := by
  cases op with
  | attachDriver c startup =>
    rcases hp : s.lifecycle.driver with _ | _ | _
    · rcases ho : startup.outcome with e | u
      · -- The engine could not be started, and nothing has changed.
        simp only [Session.moved, hp, ho]
        exact h
      · have hfresh : ∀ p ∈ some Process.fresh, p.linked = true := by
          rintro p ⟨⟩
          rfl
        simp only [Session.moved, hp, ho]
        exact h.driven (by simp [hp]) rfl hfresh c
    · simp only [Session.moved, hp]
      exact h.seatObserver c
    · have hsome : s.process.isSome = true := by
        rw [h.engaged, hp]
        rfl
      simp only [Session.moved, hp]
      exact h.driven (by simp [hp]) hsome h.linked c
  | attachObserver c => exact h.seatObserver c
  | detachDriver name =>
    simp only [Session.moved]
    split
    · next hn =>
      obtain ⟨hone, hnone⟩ := drivers_vacate_of_any h.drivers_le hn
      exact h.undriven hnone hone
    · exact h
  | detachObserver name =>
    simp only [Session.moved]
    split
    · exact h.of_drivers (drivers_vacate_observer s name)
    · exact h
  | write chunk =>
    simp only [Session.moved]
    split
    · next hl =>
      obtain ⟨hone, hnone⟩ := drivers_offered_of_loses h.drivers_le hl chunk
      exact h.undriven hnone hone
    · next hl => exact h.of_drivers (drivers_offered_of_not_loses (by simpa using hl) chunk)
  | changeStatus change => exact h.of_drivers (drivers_announced s change)
  | subscribe =>
    have hlive := h.live
    simp only [Session.moved, step, perform, subscribe, hlive]
    exact h.of_drivers rfl
  | unsubscribe n => exact h.of_drivers rfl
  | shutdown => exact absurd rfl hop
  | _ => simp [Operation.isQuiet] at hquiet

/-- An operation after which a session does not ask itself anything leaves it open. -/
lemma IsOpen.moved (h : s.IsOpen given) {op : Operation} (hop : op ≠ .shutdown)
    (hquiet : op.isQuiet = false) (hr : s.reviews op = false) : (s.moved op).IsOpen given := by
  refine ⟨h.toStanding.moved hop hquiet, ?_⟩
  cases op with
  | attachDriver c startup =>
    rcases hp : s.lifecycle.driver with _ | _ | _
    · rcases ho : startup.outcome with e | u
      · simp [reviews, hp, ho, Except.isOk, Except.toBool] at hr
      · simp [Session.moved, hp, ho, started, driven, seatDriver]
    · simp only [Session.moved, hp]
      exact h.used
    · simp [Session.moved, hp, driven, seatDriver]
  | attachObserver c => exact h.used
  | detachDriver name =>
    simp only [reviews] at hr
    simp only [Session.moved, hr]
    exact h.used
  | detachObserver name =>
    simp only [reviews] at hr
    simp only [Session.moved, hr]
    exact h.used
  | write chunk =>
    simp only [reviews, Bool.or_eq_false_iff] at hr
    simp only [Session.moved, hr.1]
    exact h.used
  | changeStatus change => simp [reviews] at hr
  | subscribe =>
    have hlive := h.live
    simp only [Session.moved, step, perform, subscribe, hlive]
    exact h.used
  | unsubscribe n => exact h.used
  | shutdown => exact absurd rfl hop
  | _ => simp [Operation.isQuiet] at hquiet

/-- Nothing but what is in transit changes once a session has ended. -/
lemma IsClosed.step_eq_self (h : s.IsClosed given) {op : Operation}
    (hquiet : op.isQuiet = false) : s.step op = s := by
  -- Nobody is left who could be asked to leave.
  have hnone : ∀ role name, role ≠ .released → s.seats.any (Seat.isNamed role name) = false := by
    intro role name hrole
    rw [List.any_eq_false]
    intro seat hseat
    simp [Seat.isNamed, h.vacant seat hseat, hrole.symm]
  have hended := h.finished
  cases op with
  | attachDriver c startup => simp [step, perform, attachDriver, hended]
  | attachObserver c => simp [step, perform, attachObserver, hended]
  | detachDriver name => simp [step, perform, detachDriver, hnone .driver name (by decide)]
  | detachObserver name => simp [step, perform, detachObserver, hnone .observer name (by decide)]
  | write chunk => simp [step, perform, write, hended]
  | changeStatus change => simp [step, perform, changeStatus, hended]
  | subscribe => simp [step, perform, subscribe, hended]
  | unsubscribe n =>
    have hfalse : s.listeners.isRegistered n = false := by
      unfold Listeners.isRegistered
      split
      · next l hl => exact h.unheard l (List.mem_of_getElem? hl)
      · rfl
    simp [step, perform, unsubscribe, hfalse]
  | shutdown => exact happen_of_destroyed hended .shutdown none
  | _ => simp [Operation.isQuiet] at hquiet

lemma IsClosed.step (h : s.IsClosed given) (op : Operation) : (s.step op).IsClosed given := by
  rcases hq : op.isQuiet with _ | _
  · rw [h.step_eq_self hq]
    exact h
  · exact (alike_step hq s).isClosed h

lemma IsClosed.run (h : s.IsClosed given) (ops : List Operation) :
    (s.run ops).IsClosed given := by
  induction ops generalizing s with
  | nil => exact h
  | cons op ops ih => exact ih (h.step op)

lemma IsOpen.step (h : s.IsOpen given) (op : Operation) : (s.step op).IsSound given := by
  rcases hq : op.isQuiet with _ | _
  · by_cases hop : op = .shutdown
    · subst hop
      exact Or.inr h.shutdown
    · rw [step_eq h.live hop]
      split
      · exact (h.toStanding.moved hop hq).settled
      · next hr => exact Or.inl (h.moved hop hq (by simpa using hr))
  · exact Or.inl ((alike_step hq s).isOpen h)

lemma IsSound.step (h : s.IsSound given) (op : Operation) : (s.step op).IsSound given := by
  rcases h with h | h
  · exact h.step op
  · exact Or.inr (h.step op)

lemma IsSound.run (h : s.IsSound given) (ops : List Operation) : (s.run ops).IsSound given := by
  induction ops generalizing s with
  | nil => exact h
  | cons op ops ih => exact ih (h.step op)

/-- Every session is open or closed at any time. -/
lemma sound_run (context : String) (given : Bool) (ops : List Operation) :
    ((fresh context given).run ops).IsSound given :=
  IsSound.run (Or.inl (isOpen_fresh context given)) ops

/-! ## One operation of an open session -/

/-- The session after an operation, before it ends or goes on. -/
def prepared (s : Session) : Operation → Session
  | .shutdown => s
  | op => s.moved op

/-- The session, ended. -/
def concluded (s : Session) : Session :=
  { s with lifecycle := { s.lifecycle with destroyed := true } }.dismantle

lemma prepared_of_ne {op : Operation} (hop : op ≠ .shutdown) (s : Session) :
    s.prepared op = s.moved op := by
  cases op with
  | shutdown => exact absurd rfl hop
  | _ => rfl

lemma prepared_of_isQuiet {op : Operation} (hq : op.isQuiet = true) (s : Session) :
    s.prepared op = s.step op := by
  cases op <;> first | rfl | simp [Operation.isQuiet] at hq

/-- **An operation of an open session does what it is for, and then the session ends or goes
on.** -/
theorem IsOpen.step_eq_prepared (h : s.IsOpen given) (op : Operation) :
    s.step op = if (s.step op).isDestroyed then (s.prepared op).concluded else s.prepared op := by
  by_cases hop : op = .shutdown
  · subst hop
    have hmark : (s.step .shutdown).isDestroyed = true := h.toStanding.shutdown.marked
    rw [hmark, if_pos rfl]
    exact shutdown_eq h.live
  · rcases hq : op.isQuiet with _ | _
    · rw [prepared_of_ne hop, step_eq h.live hop]
      rcases hr : s.reviews op with _ | _
      · have hmark : (s.moved op).isDestroyed = false := (h.moved hop hq hr).unmarked
        simp [hmark]
      · -- The session asks itself, and the mark tells the answer.
        have hstand := h.toStanding.moved hop hq
        rw [if_pos rfl, hstand.settled.isDestroyed_eq, settled_destroyed, hstand.live,
          Bool.false_or]
        rfl
    · have hmark : (s.step op).isDestroyed = false := ((alike_step hq s).isOpen h).unmarked
      rw [hmark, prepared_of_isQuiet hq]
      rfl

end SharedTerminal.Session
