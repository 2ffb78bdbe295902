import SharedTerminal.Proofs.Session.Delivery
import Mathlib.Data.List.InsertIdx

/-!
# A session without one of its channels

`Session.without` leaves out the seat of one channel and nothing else.  The channels after it move
up by one seat (`shifted`), so an operation of a session has a counterpart in the session without
the channel, unless it is an operation of the channel itself (`Operation.without`).

Whatever a session does to all its seats alike it does to each on its own, and so most operations
do the same with and without a channel whatever the channel is.  The others look for a seat, or for
whoever refuses a chunk: the driver's operations find the same driver if the channel does not drive,
and a write takes note of the same losses but for that of the channel (`write_without`).
`perform_without` says so for all operations at once.
-/

namespace SharedTerminal.Session

variable {s : Session} {j k : Nat} {seat : Seat} {op next : Operation} {name : String}

/-! ## Leaving out a seat -/

/-- The session as if the channel on a seat had never come. -/
def without (s : Session) (k : Nat) : Session := { s with seats := s.seats.eraseIdx k }

@[simp] lemma without_lifecycle (s : Session) (k : Nat) :
    (s.without k).lifecycle = s.lifecycle := rfl

@[simp] lemma without_log (s : Session) (k : Nat) : (s.without k).log = s.log := rfl

@[simp] lemma without_listeners (s : Session) (k : Nat) :
    (s.without k).listeners = s.listeners := rfl

@[simp] lemma without_process (s : Session) (k : Nat) :
    (s.without k).process = s.process := rfl

/-- The place of a seat once another one is left out. -/
def shifted (k j : Nat) : Nat := if k < j then j - 1 else j

/-- What is left of an operation when the channel with a seat and a name is left out: nothing of
what its consumer does or of its leaving, and everything else. -/
def Operation.without (k : Nat) (name : String) : Operation → Option Operation
  | .receive j max => if j = k then none else some (.receive (shifted k j) max)
  | .dropReceiver j => if j = k then none else some (.dropReceiver (shifted k j))
  | .detachObserver other => if other = name then none else some (.detachObserver other)
  | op => some op

/-- A search of a list does not miss what it would have passed over. -/
lemma find?_eraseIdx {α : Type} {p : α → Bool} {l : List α} {x : α} (hk : l[k]? = some x)
    (hx : p x = false) : (l.eraseIdx k).find? p = l.find? p := by
  induction l generalizing k with
  | nil => rfl
  | cons y l ih =>
    cases k with
    | zero =>
      obtain rfl : y = x := by simpa using hk
      simp [hx]
    | succ k => simp [List.find?_cons, ih (k := k) (by simpa using hk)]

lemma any_eraseIdx {α : Type} {p : α → Bool} {l : List α} {x : α} (hk : l[k]? = some x)
    (hx : p x = false) : (l.eraseIdx k).any p = l.any p := by
  rw [← List.isSome_find?, ← List.isSome_find?, find?_eraseIdx hk hx]

lemma getElem?_without (hj : j ≠ k) : (s.without k).seats[shifted k j]? = s.seats[j]? := by
  unfold without shifted
  split
  · next h =>
    rw [List.getElem?_eraseIdx_of_ge (by omega)]
    congr 1
    omega
  · next h => rw [List.getElem?_eraseIdx_of_lt (by omega)]

lemma modifyChannel_without (hj : j ≠ k) (f : Channel → Channel) :
    (s.without k).modifyChannel (shifted k j) f = (s.modifyChannel j f).without k := by
  unfold modifyChannel without shifted
  congr 1
  split
  · next h => rw [List.eraseIdx_modify_of_lt _ _ _ _ h]
  · next h => rw [List.eraseIdx_modify_of_gt _ _ _ _ (by omega)]

lemma without_modifyChannel_self (s : Session) (k : Nat) (f : Channel → Channel) :
    (s.modifyChannel k f).without k = s.without k := by
  unfold modifyChannel without
  rw [List.eraseIdx_modify_of_eq]

/-! ## What is done to all seats alike -/

lemma carryOut_without (change : Option Task.Change) (s : Session) (k : Nat) (e : Effect) :
    carryOut change (s.without k) e = (carryOut change s e).without k := by
  cases e with
  | appendCompletion status => simp [carryOut, appendCompletion, without, List.eraseIdx_map]
  | notifyListeners => cases change <;> rfl
  | destroy =>
    simp only [carryOut, dismantle, without, List.eraseIdx_map]
    rfl
  | _ => rfl

lemma happen_without (s : Session) (k : Nat) (o : Occurrence) (change : Option Task.Change) :
    (s.without k).happen o change = (s.happen o change).without k := by
  -- The lifecycle does not look at the seats, so the effects are the same on both sides.
  have hfold : ∀ (effects : List Effect) (t : Session),
      effects.foldl (carryOut change) (t.without k) =
        (effects.foldl (carryOut change) t).without k := by
    intro effects
    induction effects with
    | nil => exact fun _ => rfl
    | cons e effects ih =>
      intro t
      rw [List.foldl_cons, carryOut_without, ih, List.foldl_cons]
  exact hfold (s.lifecycle.apply o).2 { s with lifecycle := (s.lifecycle.apply o).1 }

lemma settled_without (s : Session) (k : Nat) : (s.without k).settled = s.settled.without k := by
  rw [settled, settled, without_lifecycle]
  split
  · exact carryOut_without none { s with lifecycle := { s.lifecycle with destroyed := true } } k
      .destroy
  · rfl

lemma seatObserver_without (hk : k < s.seats.length) (c : Channel) :
    (s.without k).seatObserver c = (s.seatObserver c).without k := by
  simp only [seatObserver, without]
  rw [List.eraseIdx_append_of_lt_length (by simpa using hk), List.eraseIdx_map]

lemma driven_without (hk : k < s.seats.length) (c : Channel) :
    (s.without k).driven c = (s.driven c).without k := by
  simp only [driven, seatDriver, without]
  rw [List.eraseIdx_append_of_lt_length hk]

lemma vacate_without (s : Session) (k : Nat) (role : Role) (name : String) :
    (s.without k).vacate role name = (s.vacate role name).without k := by
  simp [vacate, without, List.eraseIdx_map]

/-- Nobody is found under a name that nobody has. -/
lemma any_isNamed_of_not_mem (h : name ∉ s.ids) (role : Role) :
    s.seats.any (Seat.isNamed role name) = false := by
  rw [List.any_eq_false]
  intro seat hseat
  have hid : seat.channel.id ≠ name := fun heq => h (List.mem_map.2 ⟨seat, hseat, heq⟩)
  simp [Seat.isNamed, hid]

lemma vacate_of_not_mem (h : name ∉ s.ids) (role : Role) : s.vacate role name = s := by
  have hsame : (s.seats.map fun seat => if seat.isNamed role name then seat.release else seat) =
      s.seats := by
    refine (List.map_congr_left fun seat hseat => ?_).trans (List.map_id _)
    have hnone := List.any_eq_false.1 (any_isNamed_of_not_mem h role) seat hseat
    simp [hnone]
  simp only [vacate, hsame]

/-! ## Single operations -/

lemma attachDriver_without (hk : k < s.seats.length) (c : Channel) (startup : Startup) :
    (s.without k).attachDriver c startup = (s.attachDriver c startup).map (·.without k) id := by
  rcases hd : s.lifecycle.destroyed with _ | _
  · have hlive : (s.without k).lifecycle.destroyed = false := hd
    have hstarted : (s.without k).started c startup = (s.started c startup).without k := by
      rw [started, driven_without hk]
      rfl
    rw [attachDriver_eq hlive, attachDriver_eq hd, settled_without, hstarted, driven_without hk,
      seatObserver_without hk, without_lifecycle]
    split <;> rfl
  · simp [attachDriver, without, hd]

lemma attachObserver_without (hk : k < s.seats.length) (c : Channel) :
    (s.without k).attachObserver c = (s.attachObserver c).map (·.without k) id := by
  rw [attachObserver, attachObserver, without_lifecycle, seatObserver_without hk]
  split <;> rfl

lemma detachDriver_without (hk : s.seats[k]? = some seat) (hrole : seat.role ≠ .driver)
    (name : String) :
    (s.without k).detachDriver name = (s.detachDriver name).map (·.without k) id := by
  have hsame : (s.without k).seats.any (Seat.isNamed .driver name) =
      s.seats.any (Seat.isNamed .driver name) :=
    any_eraseIdx hk (by simp [Seat.isNamed, hrole])
  simp only [detachDriver, hsame, vacate_without, happen_without]
  split <;> rfl

lemma detachObserver_without (hk : s.seats[k]? = some seat) (hid : seat.channel.id ≠ name) :
    (s.without k).detachObserver name = (s.detachObserver name).map (·.without k) id := by
  have hsame : (s.without k).seats.any (Seat.isNamed .observer name) =
      s.seats.any (Seat.isNamed .observer name) :=
    any_eraseIdx hk (by simp [Seat.isNamed, hid])
  simp only [detachObserver, hsame, vacate_without, happen_without]
  split <;> rfl

lemma request_without (hk : s.seats[k]? = some seat) (hrole : seat.role ≠ .driver)
    (name : String) (command : Engine.Command) :
    (s.without k).request name command = (s.request name command).map (·.without k) id := by
  -- Whether the channel with the name drives is all that is asked of the seats.
  have hsame : (s.without k).seats.any (Seat.isNamed .driver name) =
      s.seats.any (Seat.isNamed .driver name) :=
    any_eraseIdx hk (by simp [Seat.isNamed, hrole])
  have hdriven : (s.without k).drivenProcess name = s.drivenProcess name := by
    rw [drivenProcess, hsame]
    rfl
  rw [request, hdriven, request]
  split
  · rfl
  · split <;> rfl

lemma changeStatus_without (s : Session) (k : Nat) (change : Task.Change) :
    (s.without k).changeStatus change = (s.changeStatus change).map (·.without k) id := by
  rw [changeStatus, changeStatus, happen_without, without_lifecycle]
  split <;> rfl

lemma unsubscribe_without (s : Session) (k n : Nat) :
    (s.without k).unsubscribe n = (s.unsubscribe n).map (·.without k) id := by
  let left : Session := { s with listeners := (s.listeners.unsubscribe n).1 }
  have hleft := happen_without left k .listenerDetached none
  rw [unsubscribe, unsubscribe, without_listeners]
  split
  · exact congrArg (·, true) hleft
  · rfl

lemma subscribe_without (s : Session) (k : Nat) :
    (s.without k).subscribe = s.subscribe.map (·.without k) id := by
  rw [subscribe, subscribe, without_lifecycle]
  split <;> rfl

lemma receive_without (hj : j ≠ k) (max : Option Nat) :
    (s.without k).receive (shifted k j) max = (s.receive j max).map (·.without k) id := by
  simp only [receive, getElem?_without hj, modifyChannel_without hj]
  split
  · rfl
  · split <;> rfl

lemma dropReceiver_without (hj : j ≠ k) :
    (s.without k).dropReceiver (shifted k j) = (s.dropReceiver j).map (·.without k) id := by
  simp only [dropReceiver, getElem?_without hj, modifyChannel_without hj]
  split <;> rfl

lemma takeCommands_without (s : Session) (k : Nat) :
    (s.without k).takeCommands = s.takeCommands.map (·.without k) id := by
  rw [takeCommands, takeCommands, without_process]
  split
  · rfl
  · split <;> rfl

lemma dropProcess_without (s : Session) (k : Nat) :
    (s.without k).dropProcess = s.dropProcess.map (·.without k) id := by
  rw [dropProcess, dropProcess, without_process]
  split <;> rfl

lemma flushLog_without (s : Session) (k : Nat) :
    (s.without k).flushLog = s.flushLog.map (·.without k) id := by
  rw [flushLog, flushLog, without_log]
  split <;> rfl

/-- A channel that refuses a chunk is not missed if the session has a use without it. -/
lemma write_without (hk : s.seats[k]? = some seat) (hrole : seat.role ≠ .driver)
    (hkept : seat.isLost .observer = true → s.lifecycle.isAbandoned = false) (chunk : Bytes) :
    (s.without k).write chunk = (s.write chunk).without k := by
  rcases hd : s.lifecycle.destroyed with _ | _
  · have hlive : (s.without k).lifecycle.destroyed = false := hd
    have hoffered : (s.without k).offered chunk = (s.offered chunk).without k := by
      simp [offered, without, List.eraseIdx_map]
    have hdriver : (s.without k).loses .driver = s.loses .driver :=
      any_eraseIdx hk (by simp [Seat.isLost, hrole])
    have hundriven : ((s.offered chunk).without k).undriven =
        (s.offered chunk).undriven.without k := rfl
    rw [write_eq hlive, write_eq hd, hoffered, hdriver, hundriven, settled_without, settled_without]
    rcases hl : seat.isLost .observer with _ | _
    · -- The channel takes the chunk, and those that do not are the same on both sides.
      have hobserver : (s.without k).loses .observer = s.loses .observer := any_eraseIdx hk hl
      rw [hobserver]
      split
      · rfl
      · split <;> rfl
    · -- The channel is lost.  If the driver is not, then the session is used as before.
      have hloses : s.loses .observer = true :=
        List.any_eq_true.2 ⟨seat, List.mem_of_getElem? hk, hl⟩
      have hused : (s.offered chunk).settled = s.offered chunk := settled_of_used (hkept hl)
      rw [hloses, hused]
      split
      · rfl
      · split <;> rfl
  · rw [write, write, without_lifecycle, hd]
    rfl

/-! ## All operations -/

/-- Whether the channel on a seat observes and is let go in an operation that the session notices:
it is detached, or it refuses a chunk of output. -/
def leaves (k : Nat) (s : Session) : Operation → Bool
  | .detachObserver name => s.seats[k]?.any (Seat.isNamed .observer name)
  | .write _ => s.seats[k]?.any (Seat.isLost .observer)
  | _ => false

/-- What does the same without a channel answers the same. -/
lemma map_without {α : Type} {p q : Session × α} (answer : α → Answer)
    (h : p = q.map (·.without k) id) :
    p.map id answer = (q.map id answer).map (·.without k) id := by
  rw [h]
  rfl

/-- **A session does the same with and without a channel** that does not drive, if it has another
use when the channel leaves. -/
theorem perform_without (hk : s.seats[k]? = some seat) (hrole : seat.role ≠ .driver)
    (hkept : s.leaves k op = true → s.lifecycle.isAbandoned = false)
    (hop : op.without k seat.channel.id = some next) :
    (s.without k).perform next = (s.perform op).map (·.without k) id := by
  have hlt : k < s.seats.length := (List.getElem?_eq_some_iff.1 hk).1
  cases op with
  -- The first three may be the channel's own, and then nothing would be left of them.
  | detachObserver name =>
    simp only [Operation.without, Option.ite_none_left_eq_some, Option.some.injEq] at hop
    obtain ⟨hne, rfl⟩ := hop
    exact map_without .was (detachObserver_without hk (Ne.symm hne))
  | receive j max =>
    simp only [Operation.without, Option.ite_none_left_eq_some, Option.some.injEq] at hop
    obtain ⟨hj, rfl⟩ := hop
    exact map_without .received (receive_without hj max)
  | dropReceiver j =>
    simp only [Operation.without, Option.ite_none_left_eq_some, Option.some.injEq] at hop
    obtain ⟨hj, rfl⟩ := hop
    exact map_without .was (dropReceiver_without hj)
  | attachDriver c startup =>
    obtain rfl := Option.some.inj hop
    exact map_without .attached (attachDriver_without hlt c startup)
  | attachObserver c =>
    obtain rfl := Option.some.inj hop
    exact map_without .done (attachObserver_without hlt c)
  | detachDriver name =>
    obtain rfl := Option.some.inj hop
    exact map_without .was (detachDriver_without hk hrole name)
  | write chunk =>
    obtain rfl := Option.some.inj hop
    have hlost : seat.isLost .observer = true → s.lifecycle.isAbandoned = false :=
      fun hl => hkept (by simpa [leaves, hk] using hl)
    exact congrArg (·, Answer.nothing) (write_without hk hrole hlost chunk)
  | changeStatus change =>
    obtain rfl := Option.some.inj hop
    exact map_without .done (changeStatus_without s k change)
  | submit name bytes =>
    obtain rfl := Option.some.inj hop
    exact map_without .done (request_without hk hrole name _)
  | resize name cols rows =>
    obtain rfl := Option.some.inj hop
    exact map_without .done (request_without hk hrole name _)
  | subscribe =>
    obtain rfl := Option.some.inj hop
    exact map_without .number (subscribe_without s k)
  | unsubscribe n =>
    obtain rfl := Option.some.inj hop
    exact map_without .was (unsubscribe_without s k n)
  | shutdown =>
    obtain rfl := Option.some.inj hop
    exact congrArg (·, Answer.nothing) (happen_without s k .shutdown none)
  | listen n =>
    obtain rfl := Option.some.inj hop
    rfl
  | dropListener n =>
    obtain rfl := Option.some.inj hop
    rfl
  | takeCommands =>
    obtain rfl := Option.some.inj hop
    exact map_without .commands (takeCommands_without s k)
  | dropProcess =>
    obtain rfl := Option.some.inj hop
    exact map_without .was (dropProcess_without s k)
  | flushLog =>
    obtain rfl := Option.some.inj hop
    exact map_without .logged (flushLog_without s k)

/-- What is the channel's own affair changes nothing without it. -/
lemma without_step_of_own (hk : s.seats[k]? = some seat)
    (hown : seat.channel.id ∉ (s.without k).ids)
    (hkept : s.leaves k op = true → s.lifecycle.isAbandoned = false)
    (hop : op.without k seat.channel.id = none) : (s.step op).without k = s.without k := by
  cases op with
  | receive j max =>
    obtain rfl : j = k := by simpa [Operation.without] using hop
    simp only [step, perform, receive, hk, Prod.map_fst, id_eq]
    split
    · exact without_modifyChannel_self s j _
    · rfl
  | dropReceiver j =>
    obtain rfl : j = k := by simpa [Operation.without] using hop
    simp only [step, perform, dropReceiver, hk, Prod.map_fst, id_eq]
    exact without_modifyChannel_self s j _
  | detachObserver name =>
    obtain rfl : name = seat.channel.id := by simpa [Operation.without] using hop
    simp only [step, perform, detachObserver, Prod.map_fst, id_eq]
    rcases hn : seat.isNamed .observer seat.channel.id with _ | _
    · -- The channel was let go before, and nobody else has its name.
      have hnone : s.seats.any (Seat.isNamed .observer seat.channel.id) = false := by
        rw [← any_eraseIdx hk hn]
        exact any_isNamed_of_not_mem hown .observer
      simp [hnone]
    · have hsome : s.seats.any (Seat.isNamed .observer seat.channel.id) = true :=
        List.any_eq_true.2 ⟨seat, List.mem_of_getElem? hk, hn⟩
      have hused : (s.without k).lifecycle.isAbandoned = false :=
        hkept (by simpa [leaves, hk] using hn)
      rw [hsome, if_pos rfl, ← happen_without, ← vacate_without, vacate_of_not_mem hown]
      rcases hd : (s.without k).lifecycle.destroyed with _ | _
      · rw [happen_observerDetached hd, settled_of_used hused]
      · exact happen_of_destroyed hd _ _
  | _ => simp [Operation.without] at hop

end SharedTerminal.Session
