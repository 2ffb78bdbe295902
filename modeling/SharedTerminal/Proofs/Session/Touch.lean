import SharedTerminal.Proofs.Session.Invariant

/-!
# One seat in one operation

`touch` is what an operation does to the channel on one seat, whatever it does to the others.
`getElem?_step` says so for a session that goes on, where the channel is let go on top of that if
the session ends, and `getElem?_step_of_isClosed` for one that has ended.
-/

namespace SharedTerminal.Session

variable {s : Session} {given : Bool} {k : Nat} {seat : Seat} {op : Operation}

/-- What an operation does to the channel on a seat of a session that goes on. -/
def touch (s : Session) (op : Operation) (k : Nat) (seat : Seat) : Seat :=
  match op with
  | .attachDriver c _ =>
    if s.lifecycle.driver = .attached && seat.isNamed .observer c.id then seat.release else seat
  | .attachObserver c => if seat.isNamed .observer c.id then seat.release else seat
  | .detachDriver name => if seat.isNamed .driver name then seat.release else seat
  | .detachObserver name => if seat.isNamed .observer name then seat.release else seat
  | .write chunk => seat.offer chunk
  | .changeStatus change =>
    if change.isFinal then seat.offerObserver (utf8 change.after.completionMarker) else seat
  | .receive j max =>
    if j = k && seat.channel.receiverHeld then { seat with channel := (seat.channel.receive max).1 }
    else seat
  | .dropReceiver j =>
    if j = k then { seat with channel := seat.channel.dropReceiver } else seat
  | _ => seat

@[simp] lemma touch_id (s : Session) (op : Operation) (k : Nat) (seat : Seat) :
    (s.touch op k seat).channel.id = seat.channel.id := by
  cases op with
  | receive j max =>
    simp only [touch]
    split
    · cases max <;> rfl
    · rfl
  | dropReceiver j =>
    simp only [touch]
    split <;> rfl
  | write chunk => exact Seat.offer_id seat chunk
  | _ =>
    simp only [touch]
    try split
    all_goals simp

/-- A channel that was let go is not taken in again. -/
lemma touch_role_of_released (hr : seat.role = .released) (s : Session) (op : Operation)
    (k : Nat) : (s.touch op k seat).role = .released := by
  cases op with
  | write chunk =>
    rw [touch, Seat.offer_of_released hr]
    exact hr
  | changeStatus change =>
    simp only [touch]
    split
    · simp [Seat.offerObserver, hr]
    · exact hr
  | _ =>
    simp only [touch]
    try split
    all_goals simp [hr]

/-! ## The seats after an operation -/

lemma getElem?_seatObserver (hk : s.seats[k]? = some seat) (c : Channel) :
    (s.seatObserver c).seats[k]? =
      some (if seat.isNamed .observer c.id then seat.release else seat) := by
  have hlt : k < s.seats.length := (List.getElem?_eq_some_iff.1 hk).1
  simp only [seatObserver]
  rw [List.getElem?_append_left (by simpa using hlt), List.getElem?_map, hk]
  rfl

lemma getElem?_driven (hk : s.seats[k]? = some seat) (c : Channel) :
    (s.driven c).seats[k]? = some seat := by
  have hlt : k < s.seats.length := (List.getElem?_eq_some_iff.1 hk).1
  simp only [driven, seatDriver]
  rw [List.getElem?_append_left hlt, hk]

lemma getElem?_vacate (hk : s.seats[k]? = some seat) (role : Role) (name : String) :
    (s.vacate role name).seats[k]? =
      some (if seat.isNamed role name then seat.release else seat) := by
  simp [vacate, hk]

/-- A name that nobody with a role has is not that of a seat. -/
lemma isNamed_eq_false (hk : s.seats[k]? = some seat) {role : Role} {name : String}
    (hnone : s.seats.any (Seat.isNamed role name) = false) : seat.isNamed role name = false := by
  rw [List.any_eq_false] at hnone
  simpa using hnone seat (List.mem_of_getElem? hk)

/-- Operations that concern engine, log and listeners do not touch the seats. -/
lemma seats_request (s : Session) (name : String) (command : Engine.Command) :
    (s.request name command).1.seats = s.seats := by
  unfold request
  split
  · rfl
  · split <;> rfl

lemma seats_flushLog (s : Session) : s.flushLog.1.seats = s.seats := by
  unfold flushLog
  split <;> rfl

lemma seats_takeCommands (s : Session) : s.takeCommands.1.seats = s.seats := by
  unfold takeCommands
  split
  · rfl
  · split <;> rfl

lemma seats_dropProcess (s : Session) : s.dropProcess.1.seats = s.seats := by
  unfold dropProcess
  split <;> rfl

lemma seats_subscribe (s : Session) : s.subscribe.1.seats = s.seats := by
  unfold subscribe
  split <;> rfl

/-- Quiet operations touch a seat only for its consumer. -/
lemma getElem?_step_of_isQuiet (hk : s.seats[k]? = some seat) (hq : op.isQuiet = true) :
    (s.step op).seats[k]? = some (s.touch op k seat) := by
  cases op with
  | submit name bytes => exact (congrArg (·[k]?) (seats_request s name _)).trans hk
  | resize name cols rows => exact (congrArg (·[k]?) (seats_request s name _)).trans hk
  | receive j max =>
    simp only [step, perform, Prod.map_fst, id_eq, receive, touch]
    by_cases hj : j = k
    · subst hj
      rw [hk]
      rcases hr : seat.channel.receiverHeld with _ | _
      · simp [hr, hk]
      · simp [hr, modifyChannel, hk]
    · rcases s.seats[j]? with _ | other
      · simp [hj, hk]
      · rcases hr : other.channel.receiverHeld with _ | _
        · simp [hr, hj, hk]
        · simp [hr, hj, modifyChannel, hk]
  | dropReceiver j =>
    simp only [step, perform, Prod.map_fst, id_eq, dropReceiver, touch]
    by_cases hj : j = k
    · subst hj
      simp [hk, modifyChannel]
    · rcases s.seats[j]? with _ | other
      · simp [hj, hk]
      · simp [hj, modifyChannel, hk]
  | listen n => exact hk
  | dropListener n => exact hk
  | takeCommands => exact (congrArg (·[k]?) (seats_takeCommands s)).trans hk
  | dropProcess => exact (congrArg (·[k]?) (seats_dropProcess s)).trans hk
  | flushLog => exact (congrArg (·[k]?) (seats_flushLog s)).trans hk
  | _ => simp [Operation.isQuiet] at hq

/-- What the other operations do to a seat before the session asks itself if it goes on. -/
lemma getElem?_moved (hk : s.seats[k]? = some seat) (hq : op.isQuiet = false)
    (hop : op ≠ .shutdown) : (s.moved op).seats[k]? = some (s.touch op k seat) := by
  cases op with
  | attachDriver c startup =>
    rcases hp : s.lifecycle.driver with _ | _ | _
    · rcases ho : startup.outcome with e | u
      · simpa [moved, touch, hp, ho] using hk
      · simpa [moved, touch, hp, ho, started] using getElem?_driven hk c
    · simpa [moved, touch, hp] using getElem?_seatObserver hk c
    · simpa [moved, touch, hp] using getElem?_driven hk c
  | attachObserver c => exact getElem?_seatObserver hk c
  | detachDriver name =>
    rcases hn : s.seats.any (Seat.isNamed .driver name) with _ | _
    · simp [moved, touch, hn, hk, isNamed_eq_false hk hn]
    · simpa [moved, touch, hn, undriven] using getElem?_vacate hk .driver name
  | detachObserver name =>
    rcases hn : s.seats.any (Seat.isNamed .observer name) with _ | _
    · simp [moved, touch, hn, hk, isNamed_eq_false hk hn]
    · simpa [moved, touch, hn] using getElem?_vacate hk .observer name
  | write chunk =>
    simp only [moved, touch]
    split <;> simp [undriven, offered, hk]
  | changeStatus change =>
    simp only [moved, announced, touch]
    split <;> simp [hk]
  | subscribe => exact (congrArg (·[k]?) (seats_subscribe s)).trans hk
  | unsubscribe n => exact hk
  | shutdown => exact absurd rfl hop
  | _ => simp [Operation.isQuiet] at hq

lemma getElem?_prepared (hk : s.seats[k]? = some seat) (op : Operation) :
    (s.prepared op).seats[k]? = some (s.touch op k seat) := by
  by_cases hop : op = .shutdown
  · subst hop
    exact hk
  · rcases hq : op.isQuiet with _ | _
    · rw [prepared_of_ne hop]
      exact getElem?_moved hk hq hop
    · rw [prepared_of_isQuiet hq]
      exact getElem?_step_of_isQuiet hk hq

/-- What an operation does to a seat of a session that goes on: the channel is touched, and let go
if the session ends. -/
lemma getElem?_step (h : s.IsOpen given) (hk : s.seats[k]? = some seat) (op : Operation) :
    (s.step op).seats[k]? =
      some (if (s.step op).isDestroyed then (s.touch op k seat).release
        else s.touch op k seat) := by
  have hprepared := getElem?_prepared hk op
  have hstep := h.step_eq_prepared op
  rcases hd : (s.step op).isDestroyed with _ | _
  · rw [hd, if_neg (by decide)] at hstep
    rw [hstep, hprepared]
    rfl
  · rw [hd, if_pos rfl] at hstep
    rw [hstep]
    simp [concluded, dismantle, hprepared]

/-- Once a session has ended, a seat changes only for its consumer. -/
lemma getElem?_step_of_isClosed (h : s.IsClosed given) (hk : s.seats[k]? = some seat)
    (op : Operation) :
    (s.step op).seats[k]? = some (if op.isQuiet then s.touch op k seat else seat) := by
  rcases hq : op.isQuiet with _ | _
  · rw [h.step_eq_self hq, hk]
    rfl
  · rw [getElem?_step_of_isQuiet hk hq]
    rfl

end SharedTerminal.Session
