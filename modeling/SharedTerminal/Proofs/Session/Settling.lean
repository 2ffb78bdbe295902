import SharedTerminal.Proofs.Session.Operation

/-!
# Settling

An operation that takes something away from a session ends it if nobody can use it any more.  The
session lets its lifecycle find that out and then carries out the effects one by one;
`Session.settled` says in one word what comes of it.

The main statements write each operation of a session that goes on as the change it is for,
followed by `settled`: `happen_driverDetached` and its neighbours for one occurrence,
`attachDriver_eq`, `changeStatus_eq` and `write_eq` for single operations, and `step_eq` for all of
them.  Nothing after this module looks into the effects again.
-/

namespace SharedTerminal.Session

variable {s : Session}

/-- The session, ended if nobody can use it any more. -/
def settled (s : Session) : Session :=
  if s.lifecycle.isAbandoned then
    { s with lifecycle := { s.lifecycle with destroyed := true } }.dismantle
  else s

lemma settled_of_abandoned (h : s.lifecycle.isAbandoned = true) :
    s.settled = { s with lifecycle := { s.lifecycle with destroyed := true } }.dismantle :=
  if_pos h

lemma settled_of_used (h : s.lifecycle.isAbandoned = false) : s.settled = s := by
  simp [settled, h]

@[simp] lemma settled_context (s : Session) : s.settled.context = s.context := by
  unfold settled
  split <;> rfl

@[simp] lemma settled_active (s : Session) :
    s.settled.lifecycle.active = s.lifecycle.active := by
  unfold settled
  split <;> rfl

@[simp] lemma settled_driver (s : Session) :
    s.settled.lifecycle.driver = s.lifecycle.driver := by
  unfold settled
  split <;> rfl

@[simp] lemma settled_destroyed (s : Session) :
    s.settled.lifecycle.destroyed = (s.lifecycle.destroyed || s.lifecycle.isAbandoned) := by
  unfold settled
  split
  · next h => simp [h, dismantle]
  · next h => simp [h]

/-! ## One occurrence -/

lemma happen_of_destroyed (h : s.lifecycle.destroyed = true) (o : Occurrence)
    (change : Option Task.Change) : s.happen o change = s := by
  simp [happen, h]

/-- No effect reads or changes what decides the life of the session. -/
lemma carryOut_withLifecycle (change : Option Task.Change) (s : Session) (l : Lifecycle)
    (e : Effect) :
    carryOut change { s with lifecycle := l } e = { carryOut change s e with lifecycle := l } := by
  cases e with
  | notifyListeners => cases change <;> rfl
  | _ => rfl

lemma foldl_carryOut_withLifecycle (change : Option Task.Change) (l : Lifecycle)
    (effects : List Effect) (s : Session) :
    effects.foldl (carryOut change) { s with lifecycle := l } =
      { effects.foldl (carryOut change) s with lifecycle := l } := by
  induction effects generalizing s with
  | nil => rfl
  | cons e effects ih =>
    rw [List.foldl_cons, carryOut_withLifecycle, ih, List.foldl_cons]

/-- An occurrence after which the lifecycle is settled carries out its effects and then settles
the session. -/
lemma happen_eq_settled {o : Occurrence} {l : Lifecycle} {effects : List Effect}
    (change : Option Task.Change) (h : s.lifecycle.apply o = l.settle effects) :
    s.happen o change = { effects.foldl (carryOut change) s with lifecycle := l }.settled := by
  rw [happen, h]
  by_cases ha : l.isAbandoned = true
  · -- The end is the last effect, so what the others did is there when everything is let go.
    rw [settled_of_abandoned ha]
    simp only [Lifecycle.settle, ha, if_true, List.foldl_append, foldl_carryOut_withLifecycle]
    rfl
  · rw [settled_of_used (by simpa using ha)]
    simp only [Lifecycle.settle, ha, Bool.false_eq_true, if_false, foldl_carryOut_withLifecycle]

/-- The session whose driver has left its place. -/
def undriven (s : Session) : Session :=
  { s with lifecycle := { s.lifecycle with driver := Lifecycle.leave s.lifecycle.driver } }

lemma happen_driverDetached (h : s.lifecycle.destroyed = false) :
    s.happen .driverDetached none = s.undriven.settled := by
  have hlife : s.lifecycle.apply .driverDetached = s.undriven.lifecycle.settle [] := by
    simp [Lifecycle.apply, h, undriven]
  exact happen_eq_settled none hlife

lemma happen_observerDetached (h : s.lifecycle.destroyed = false) :
    s.happen .observerDetached none = s.settled := by
  have hlife : s.lifecycle.apply .observerDetached = s.lifecycle.settle [] := by
    simp [Lifecycle.apply, h]
  exact happen_eq_settled none hlife

lemma happen_listenerDetached (h : s.lifecycle.destroyed = false) :
    s.happen .listenerDetached none = s.settled := by
  have hlife : s.lifecycle.apply .listenerDetached = s.lifecycle.settle [] := by
    simp [Lifecycle.apply, h]
  exact happen_eq_settled none hlife

lemma happen_engineFailed (h : s.lifecycle.destroyed = false) :
    s.happen .engineFailed none = s.settled := by
  have hlife : s.lifecycle.apply .engineFailed = s.lifecycle.settle [] := by
    simp [Lifecycle.apply, h]
  exact happen_eq_settled none hlife

lemma shutdown_eq (h : s.lifecycle.destroyed = false) :
    s.shutdown = { s with lifecycle := { s.lifecycle with destroyed := true } }.dismantle := by
  simp [shutdown, happen, Lifecycle.apply, h, carryOut]

/-! ## Status and output -/

/-- The session after it told observers, log and listeners of a change of status. -/
def announced (s : Session) (change : Task.Change) : Session :=
  let marker := utf8 change.after.completionMarker
  { s with
    lifecycle := { s.lifecycle with active := !change.isFinal }
    seats := if change.isFinal then s.seats.map (Seat.offerObserver marker) else s.seats
    log := if change.isFinal then s.log.map (logChunk marker) else s.log
    listeners := (s.listeners.broadcast change).1 }

lemma changeStatus_eq (h : s.lifecycle.destroyed = false) (change : Task.Change) :
    s.changeStatus change = ((s.announced change).settled, .ok ()) := by
  have hlife : s.lifecycle.apply (.statusChanged change.after) =
      { s.lifecycle with active := !change.isFinal }.settle (Lifecycle.report change.after) := by
    simp [Lifecycle.apply, h, Task.Change.isFinal]
  rw [changeStatus, h, if_neg (by simp), happen_eq_settled (some change) hlife]
  congr 2
  unfold announced Lifecycle.report Task.Change.isFinal
  cases change.after.isFinal <;> rfl

/-- The session after it offered a chunk to everyone, before it takes note of what was refused. -/
def offered (s : Session) (chunk : Bytes) : Session :=
  { s with seats := s.seats.map (Seat.offer chunk), log := s.log.map (logChunk chunk) }

/-- Once a session is settled, another observer that leaves changes nothing. -/
lemma happen_observerDetached_settled (s : Session) :
    s.settled.happen .observerDetached none = s.settled := by
  by_cases ha : s.lifecycle.isAbandoned = true
  · exact happen_of_destroyed (by simp [ha]) _ _
  · have hs : s.settled = s := settled_of_used (by simpa using ha)
    rw [hs]
    by_cases hd : s.lifecycle.destroyed = true
    · exact happen_of_destroyed hd _ _
    · rw [happen_observerDetached (by simpa using hd), hs]

lemma foldl_observerDetached_settled (s : Session) (n : Nat) :
    (List.replicate n Occurrence.observerDetached).foldl (fun s o => s.happen o none) s.settled =
      s.settled := by
  induction n with
  | zero => rfl
  | succ n ih => rw [List.replicate_succ, List.foldl_cons, happen_observerDetached_settled, ih]

/-- Whether a chunk will be refused on a seat with a role. -/
def loses (s : Session) (role : Role) : Bool := s.seats.any (Seat.isLost role)

lemma write_eq (h : s.lifecycle.destroyed = false) (chunk : Bytes) :
    s.write chunk =
      if s.loses .driver then (s.offered chunk).undriven.settled
      else if s.loses .observer then (s.offered chunk).settled
      else s.offered chunk := by
  have hlive : (s.offered chunk).lifecycle.destroyed = false := h
  rw [write, h, if_neg (by simp), losses, List.foldl_append, ← offered]
  by_cases hd : s.loses .driver = true
  · -- The loss of the driver comes first, and after it no other loss is noticed.
    rw [if_pos hd, ← loses, if_pos hd, List.foldl_cons, List.foldl_nil,
      happen_driverDetached hlive, foldl_observerDetached_settled]
  · rw [if_neg hd, ← loses, if_neg hd, List.foldl_nil]
    rcases hn : s.seats.countP (Seat.isLost .observer) with _ | n
    · have hnone : s.loses .observer = false := by
        simpa [loses, List.countP_eq_zero] using hn
      simp [hnone]
    · -- The first observer that is lost settles the session, and the others add nothing.
      have hsome : s.loses .observer = true := by
        have hpos : 0 < s.seats.countP (Seat.isLost .observer) := by omega
        simpa [loses, List.countP_pos_iff] using hpos
      rw [hsome, if_pos rfl, List.replicate_succ, List.foldl_cons,
        happen_observerDetached hlive, foldl_observerDetached_settled]

/-! ## The arrival of a driver -/

/-- The session with a driver. -/
def driven (s : Session) (c : Channel) : Session :=
  { s with lifecycle := { s.lifecycle with driver := .attached } }.seatDriver c

/-- The session with its first driver, for whom the engine was started. -/
def started (s : Session) (c : Channel) (startup : Startup) : Session :=
  { s.driven c with
    process := some .fresh
    log := startup.logCapacity.map (Channel.fresh "") }

lemma attachDriver_eq (h : s.lifecycle.destroyed = false) (c : Channel) (startup : Startup) :
    s.attachDriver c startup =
      match s.lifecycle.driver, startup.outcome with
      | .never, .error e => (s.settled, .error e)
      | .never, .ok () => (s.started c startup, .ok .driving)
      | .attached, _ => (s.seatObserver c, .ok .observing)
      | .departed, _ => (s.driven c, .ok .driving) := by
  rw [attachDriver, h, if_neg (by simp)]
  rcases hp : s.lifecycle.driver with _ | _ | _
  · rcases ho : startup.outcome with e | u
    · simp [Lifecycle.apply, h, hp, Lifecycle.welcome, happen_engineFailed h]
    · simp [Lifecycle.apply, h, hp, Lifecycle.welcome, started, driven, seatDriver]
  · -- A second driver is turned into an observer, and the lifecycle stays as it was.
    have hsame : (⟨s.lifecycle.active, .attached, false⟩ : Lifecycle) = s.lifecycle := by
      rw [← hp, ← h]
    simp [Lifecycle.apply, h, hp, Lifecycle.welcome, hsame]
  · simp [Lifecycle.apply, h, hp, Lifecycle.welcome, driven]

/-- Only a session that goes on takes a driver in. -/
lemma live_of_attachDriver {c : Channel} {startup : Startup} {a : Attachment}
    (ha : (s.attachDriver c startup).2 = .ok a) : s.lifecycle.destroyed = false := by
  rw [← Bool.not_eq_true]
  intro hd
  simp [attachDriver, hd] at ha

/-- Only a session that goes on takes an observer in. -/
lemma live_of_attachObserver {c : Channel} (ha : (s.attachObserver c).2 = .ok ()) :
    s.lifecycle.destroyed = false := by
  rw [← Bool.not_eq_true]
  intro hd
  simp [attachObserver, hd] at ha

/-! ## One step -/

/-- Whether an operation makes the session ask itself if it goes on: someone leaves or is lost,
the engine cannot be started, or a task changes its status. -/
def reviews (s : Session) : Operation → Bool
  | .attachDriver _ startup => s.lifecycle.driver = .never && !startup.outcome.isOk
  | .detachDriver name => s.seats.any (Seat.isNamed .driver name)
  | .detachObserver name => s.seats.any (Seat.isNamed .observer name)
  | .write _ => s.loses .driver || s.loses .observer
  | .changeStatus _ => true
  | .unsubscribe n => s.listeners.isRegistered n
  | _ => false

/-- The session after an operation, before it asks itself if it goes on. -/
def moved (s : Session) : Operation → Session
  | .attachDriver c startup =>
    match s.lifecycle.driver, startup.outcome with
    | .never, .error _ => s
    | .never, .ok () => s.started c startup
    | .attached, _ => s.seatObserver c
    | .departed, _ => s.driven c
  | .attachObserver c => s.seatObserver c
  | .detachDriver name =>
    if s.seats.any (Seat.isNamed .driver name) then (s.vacate .driver name).undriven else s
  | .detachObserver name =>
    if s.seats.any (Seat.isNamed .observer name) then s.vacate .observer name else s
  | .write chunk => if s.loses .driver then (s.offered chunk).undriven else s.offered chunk
  | .changeStatus change => s.announced change
  | .unsubscribe n => { s with listeners := (s.listeners.unsubscribe n).1 }
  | op => s.step op

/-- **What one operation does to a session that goes on.** -/
theorem step_eq (h : s.lifecycle.destroyed = false) {op : Operation} (hop : op ≠ .shutdown) :
    s.step op = if s.reviews op then (s.moved op).settled else s.moved op := by
  cases op with
  | attachDriver c startup =>
    rcases hp : s.lifecycle.driver with _ | _ | _
    · rcases ho : startup.outcome with e | u <;>
        simp [step, perform, attachDriver_eq h, reviews, moved, hp, ho, Except.isOk, Except.toBool]
    · simp [step, perform, attachDriver_eq h, reviews, moved, hp]
    · simp [step, perform, attachDriver_eq h, reviews, moved, hp]
  | attachObserver c => simp [step, perform, attachObserver, h, reviews, moved]
  | detachDriver name =>
    by_cases hn : s.seats.any (Seat.isNamed .driver name) = true
    · simp only [step, perform, detachDriver, reviews, moved, if_pos hn]
      exact happen_driverDetached h
    · simp only [step, perform, detachDriver, reviews, moved, if_neg hn]
      rfl
  | detachObserver name =>
    by_cases hn : s.seats.any (Seat.isNamed .observer name) = true
    · simp only [step, perform, detachObserver, reviews, moved, if_pos hn]
      exact happen_observerDetached h
    · simp only [step, perform, detachObserver, reviews, moved, if_neg hn]
      rfl
  | write chunk =>
    rcases hd : s.loses .driver with _ | _
    · simp [step, perform, write_eq h, reviews, moved, hd]
    · simp [step, perform, write_eq h, reviews, moved, hd]
  | changeStatus change =>
    simp only [step, perform, changeStatus_eq h, reviews, moved]
    rfl
  | unsubscribe n =>
    by_cases hn : s.listeners.isRegistered n = true
    · have hleft : { s with listeners := (s.listeners.unsubscribe n).1 }.happen
          .listenerDetached none = (s.moved (.unsubscribe n)).settled := happen_listenerDetached h
      rw [reviews, if_pos hn, ← hleft]
      simp [step, perform, unsubscribe, hn]
    · simp [step, perform, unsubscribe, reviews, moved, Listeners.unsubscribe, hn]
  | shutdown => exact absurd rfl hop
  | _ => rfl

end SharedTerminal.Session
