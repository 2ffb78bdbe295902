import SharedTerminal.Proofs.Session.Announcement
import Mathlib.Data.List.Nodup
import Mathlib.Data.List.TakeWhile

/-!
# Subscriptions

The register of listeners, by itself: listeners subscribe and leave, changes are announced, the
register is cleared, and whoever listens reads or stops reading.  Three things go their own ways
here: who is on the register, who still reads, and what waits in which queue.  A listener that stops
reading stays on the register until it is found out at the next announcement.

`Operation.touch` is what an operation does to one listener, so a run is seen from one listener at a
time (`getElem?_run`).  What it reads, followed by what waits for it, is what was announced until it
was dismissed or stopped reading (`told_eq`); and whether it is on the register at the end is read
off the operations since it subscribed (`registered_touchAll`).  The main statement,
`tells_exactly_registered`, puts this together for every run of a new register.
-/

namespace SharedTerminal.Session.Listeners

/-! ## Operations -/

/-- What can be done to a register of listeners and to their queues. -/
inductive Operation where
  /-- A listener subscribes. -/
  | subscribe
  /-- The listener with a number leaves. -/
  | unsubscribe (n : Nat)
  /-- A change is announced. -/
  | broadcast (change : Task.Change)
  /-- Everyone is taken off the register. -/
  | clear
  /-- The listener with a number reads everything that waits for it. -/
  | receive (n : Nat)
  /-- The listener with a number stops reading. -/
  | dropReceiver (n : Nat)

/-- What an operation answers. -/
inductive Answer where
  /-- The number of a new listener. -/
  | number (n : Nat)
  /-- Whether there was something to do it to. -/
  | was (flag : Bool)
  /-- How many listeners heard an announcement. -/
  | count (heard : Nat)
  /-- What a listener found in its queue. -/
  | heard (found : Option Heard)
  /-- Nothing. -/
  | nothing

/-- The number that an answer gives to a new listener. -/
def Answer.number? : Answer → Option Nat
  | number n => some n
  | _ => none

namespace Operation

/-- The change that an operation announces. -/
def change? : Operation → Option Task.Change
  | broadcast change => some change
  | _ => none

/-- Whether an operation takes the listener with a number off the register by its own account. -/
def dismisses (n : Nat) : Operation → Bool
  | unsubscribe m => m == n
  | clear => true
  | _ => false

/-- Whether the listener with a number stops reading in an operation. -/
def quits (n : Nat) : Operation → Bool
  | dropReceiver m => m == n
  | _ => false

/-- What an operation does to the listener with a number. -/
def touch (n : Nat) (op : Operation) (l : Listener) : Listener :=
  match op with
  | subscribe => l
  | unsubscribe m => if m = n then l.forget else l
  | broadcast change => l.hear change
  | clear => l.forget
  | receive m => if m = n ∧ l.receiverHeld = true then { l with queue := [] } else l
  | dropReceiver m => if m = n then { l with receiverHeld := false } else l

end Operation

/-- Carries out an operation and gives the answer. -/
def perform (ls : Listeners) : Operation → Listeners × Answer
  | .subscribe => ls.subscribe.map id .number
  | .unsubscribe n => (ls.unsubscribe n).map id .was
  | .broadcast change => (ls.broadcast change).map id .count
  | .clear => (ls.clear, .nothing)
  | .receive n => (ls.receive n).map id .heard
  | .dropReceiver n => (ls.dropReceiver n).map id .was

/-- The register after an operation. -/
def step (ls : Listeners) (op : Operation) : Listeners := (ls.perform op).1

/-- The register after a list of operations. -/
def run (ls : Listeners) (ops : List Operation) : Listeners := ops.foldl step ls

/-- The numbers that are given to new listeners in a list of operations, in order. -/
def numbersIn (ls : Listeners) : List Operation → List Nat
  | [] => []
  | op :: ops => (ls.perform op).2.number?.toList ++ numbersIn (ls.step op) ops

/-- The changes that a listener reads in an operation. -/
def heardBy (n : Nat) (ls : Listeners) (op : Operation) : List Task.Change :=
  match op, (ls.perform op).2 with
  | .receive m, .heard (some found) => if m = n then found.changes else []
  | _, _ => []

/-- The changes that a listener reads in a list of operations. -/
def heardIn (n : Nat) (ls : Listeners) : List Operation → List Task.Change
  | [] => []
  | op :: ops => heardBy n ls op ++ heardIn n (ls.step op) ops

/-- The changes that wait for a listener. -/
def pending (n : Nat) (ls : Listeners) : List Task.Change := ls.all[n]?.elim [] Listener.queue

/-- The changes that are announced in a list of operations, in order. -/
def announcements (ops : List Operation) : List Task.Change := ops.filterMap Operation.change?

/-- Whether a listener is found out in a list of operations: it stops reading, and something is
announced after that. -/
def isFoundOut (n : Nat) (ops : List Operation) : Bool :=
  (ops.dropWhile (!·.quits n)).any (·.change?.isSome)

variable {ls : Listeners} {l : Listener} {n : Nat}

@[simp] lemma run_nil (ls : Listeners) : ls.run [] = ls := rfl

@[simp] lemma run_cons (ls : Listeners) (op : Operation) (ops : List Operation) :
    ls.run (op :: ops) = (ls.step op).run ops := rfl

lemma run_append (ls : Listeners) (ops more : List Operation) :
    ls.run (ops ++ more) = (ls.run ops).run more :=
  List.foldl_append

lemma heardIn_append (n : Nat) (ls : Listeners) (ops more : List Operation) :
    heardIn n ls (ops ++ more) = heardIn n ls ops ++ heardIn n (ls.run ops) more := by
  induction ops generalizing ls with
  | nil => rfl
  | cons op ops ih => simp [heardIn, ih]

/-! ## One listener in one operation -/

lemma isRegistered_eq (hn : ls.all[n]? = some l) : ls.isRegistered n = l.registered := by
  simp [isRegistered, hn]

lemma isReading_eq (hn : ls.all[n]? = some l) : ls.isReading n = l.receiverHeld := by
  simp [isReading, hn]

lemma pending_eq (hn : ls.all[n]? = some l) : ls.pending n = l.queue := by
  simp [pending, hn]

/-- Every listener is touched by an operation, and keeps its number. -/
lemma getElem?_step (hn : ls.all[n]? = some l) (op : Operation) :
    (ls.step op).all[n]? = some (op.touch n l) := by
  cases op with
  | subscribe =>
    have hlt : n < ls.all.length := (List.getElem?_eq_some_iff.1 hn).1
    simp only [step, perform, subscribe, Prod.map_fst, id_eq, Operation.touch]
    rw [List.getElem?_append_left hlt, hn]
  | unsubscribe m =>
    simp only [step, perform, Prod.map_fst, id_eq, unsubscribe_eq_modify, Operation.touch,
      List.getElem?_modify, hn]
    split <;> rfl
  | broadcast change => simp [step, perform, broadcast, Operation.touch, hn]
  | clear => simp [step, perform, clear, Operation.touch, hn]
  | receive m =>
    simp only [step, perform, Prod.map_fst, id_eq, receive_eq_modify, Operation.touch,
      List.getElem?_modify, hn]
    by_cases hm : m = n
    · rcases hr : l.receiverHeld with _ | _ <;> simp [hm, hr]
    · simp [hm]
  | dropReceiver m =>
    simp only [step, perform, Prod.map_fst, id_eq, dropReceiver_eq_modify, Operation.touch,
      List.getElem?_modify, hn]
    split <;> rfl

/-- Who stops reading does so for good. -/
lemma receiverHeld_touch (n : Nat) (op : Operation) (l : Listener) :
    (op.touch n l).receiverHeld = (l.receiverHeld && !op.quits n) := by
  cases op with
  | broadcast change =>
    simp only [Operation.touch, Operation.quits, Listener.hear]
    rcases l.registered with _ | _ <;> rcases hh : l.receiverHeld with _ | _ <;> simp [hh]
  | unsubscribe m =>
    simp only [Operation.touch, Operation.quits]
    split <;> simp [Listener.forget]
  | receive m =>
    simp only [Operation.touch, Operation.quits]
    split <;> simp
  | dropReceiver m => by_cases hm : m = n <;> simp [Operation.touch, Operation.quits, hm]
  | _ => simp [Operation.touch, Operation.quits, Listener.forget]

/-- Who is dismissed is off the register, and so is who does not read when something is
announced. -/
lemma registered_touch (n : Nat) (op : Operation) (l : Listener) :
    (op.touch n l).registered =
      (l.registered && !op.dismisses n && (l.receiverHeld || !op.change?.isSome)) := by
  cases op with
  | broadcast change =>
    simp only [Operation.touch, Operation.dismisses, Operation.change?, Listener.hear]
    rcases hr : l.registered with _ | _ <;> rcases l.receiverHeld with _ | _ <;> simp [hr]
  | unsubscribe m =>
    by_cases hm : m = n <;>
      simp [Operation.touch, Operation.dismisses, Operation.change?, Listener.forget, hm]
  | receive m =>
    simp only [Operation.touch, Operation.dismisses, Operation.change?]
    split <;> simp
  | dropReceiver m =>
    simp only [Operation.touch, Operation.dismisses, Operation.change?]
    split <;> simp
  | _ => simp [Operation.touch, Operation.dismisses, Operation.change?, Listener.forget]

/-- Who is told of changes is told until it is dismissed or stops reading. -/
lemma isTold_touch (n : Nat) (op : Operation) (l : Listener) :
    (op.touch n l).isTold = (l.isTold && !op.dismisses n && !op.quits n) := by
  rw [Listener.isTold, Listener.isTold, receiverHeld_touch, registered_touch]
  rcases l.registered with _ | _ <;> rcases l.receiverHeld with _ | _ <;> simp

lemma heardBy_receive (hn : ls.all[n]? = some l) :
    heardBy n ls (.receive n) = if l.receiverHeld then l.queue else [] := by
  rcases hr : l.receiverHeld with _ | _ <;> simp [heardBy, perform, receive, hn, hr]

lemma heardBy_receive_of_ne {m : Nat} (hm : m ≠ n) (ls : Listeners) :
    heardBy n ls (.receive m) = [] := by
  unfold heardBy
  split
  · next heq _ =>
    cases heq
    simp [hm]
  · rfl

/-- One operation adds to a queue the change that it announces, if the listener is told, and takes
out of it what was read. -/
lemma heardBy_append_touch (hn : ls.all[n]? = some l) (op : Operation) :
    heardBy n ls op ++ (op.touch n l).queue =
      l.queue ++ if l.isTold then op.change?.toList else [] := by
  cases op with
  | broadcast change =>
    rcases hr : l.registered with _ | _ <;> rcases hh : l.receiverHeld with _ | _ <;>
      simp [heardBy, Operation.touch, Listener.hear, Listener.isTold, Operation.change?, hr, hh]
  | unsubscribe m =>
    simp only [heardBy, Operation.touch, Operation.change?]
    split <;> simp [Listener.forget]
  | receive m =>
    by_cases hm : m = n
    · subst hm
      rw [heardBy_receive hn]
      rcases hh : l.receiverHeld with _ | _ <;> simp [Operation.touch, Operation.change?, hh]
    · simp [heardBy_receive_of_ne hm, Operation.touch, Operation.change?, hm]
  | dropReceiver m =>
    simp only [heardBy, Operation.touch, Operation.change?]
    split <;> simp
  | _ => simp [heardBy, Operation.touch, Operation.change?, Listener.forget]

/-! ## One listener in a run -/

/-- What a list of operations does to the listener with a number. -/
def touchAll (n : Nat) (l : Listener) (ops : List Operation) : Listener :=
  ops.foldl (fun l op => op.touch n l) l

lemma getElem?_run (hn : ls.all[n]? = some l) (ops : List Operation) :
    (ls.run ops).all[n]? = some (touchAll n l ops) := by
  induction ops generalizing ls l with
  | nil => exact hn
  | cons op ops ih => exact ih (getElem?_step hn op)

lemma receiverHeld_touchAll (n : Nat) (l : Listener) (ops : List Operation) :
    (touchAll n l ops).receiverHeld = (l.receiverHeld && ops.all (!·.quits n)) := by
  induction ops generalizing l with
  | nil => simp [touchAll]
  | cons op ops ih =>
    have hrest : touchAll n l (op :: ops) = touchAll n (op.touch n l) ops := rfl
    rw [hrest, ih, receiverHeld_touch, List.all_cons, Bool.and_assoc]

/-- Who has stopped reading stays on the register until it is dismissed or something is
announced. -/
lemma registered_touchAll_of_quit (hr : l.receiverHeld = false) (ops : List Operation) :
    (touchAll n l ops).registered =
      (l.registered && ops.all (!·.dismisses n) && !ops.any (·.change?.isSome)) := by
  induction ops generalizing l with
  | nil => simp [touchAll]
  | cons op ops ih =>
    have hrest : touchAll n l (op :: ops) = touchAll n (op.touch n l) ops := rfl
    have hquit : (op.touch n l).receiverHeld = false := by
      rw [receiverHeld_touch, hr, Bool.false_and]
    rw [hrest, ih hquit, registered_touch, hr, List.all_cons, List.any_cons]
    rcases l.registered with _ | _ <;> rcases op.dismisses n with _ | _ <;>
      rcases op.change?.isSome with _ | _ <;> simp

/-- **Who is on the register.**  A listener that reads stays on the register until it is dismissed
or found out. -/
theorem registered_touchAll (hr : l.receiverHeld = true) (ops : List Operation) :
    (touchAll n l ops).registered =
      (l.registered && ops.all (!·.dismisses n) && !isFoundOut n ops) := by
  induction ops generalizing l with
  | nil => simp [touchAll, isFoundOut]
  | cons op ops ih =>
    have hrest : touchAll n l (op :: ops) = touchAll n (op.touch n l) ops := rfl
    have hheld : (op.touch n l).receiverHeld = !op.quits n := by
      rw [receiverHeld_touch, hr, Bool.true_and]
    rcases hq : op.quits n with _ | _
    · rw [hq] at hheld
      have hfound : isFoundOut n (op :: ops) = isFoundOut n ops := by simp [isFoundOut, hq]
      rw [hrest, ih hheld, registered_touch, hr, hfound, List.all_cons]
      simp [Bool.and_assoc]
    · -- From here on the next announcement finds it out.
      rw [hq] at hheld
      have hfound : isFoundOut n (op :: ops) = ops.any (·.change?.isSome) := by
        cases op <;> simp_all [isFoundOut, Operation.quits, Operation.change?]
      rw [hrest, registered_touchAll_of_quit hheld, registered_touch, hr, hfound, List.all_cons]
      simp [Bool.and_assoc]

/-- What a listener read and what waits for it is what was announced until it was dismissed or
stopped reading. -/
lemma told_eq (hn : ls.all[n]? = some l) (ops : List Operation) :
    heardIn n ls ops ++ (ls.run ops).pending n = l.queue ++
      if l.isTold then announcements ((ops.takeWhile (!·.dismisses n)).takeWhile (!·.quits n))
      else [] := by
  induction ops generalizing ls l with
  | nil => simp [heardIn, pending_eq hn, announcements]
  | cons op ops ih =>
    have hstep := heardBy_append_touch hn op
    rw [heardIn, run_cons, List.append_assoc, ih (getElem?_step hn op), ← List.append_assoc, hstep,
      isTold_touch, List.append_assoc]
    congr 1
    rcases ht : l.isTold with _ | _
    · rfl
    · rcases hd : op.dismisses n with _ | _
      · rcases hq : op.quits n with _ | _
        · rcases hc : op.change? with _ | change <;> simp [announcements, hd, hq, hc]
        · -- Nothing is announced when a listener stops reading.
          have hc : op.change? = none := by
            cases op <;> first | rfl | simp [Operation.quits] at hq
          simp [announcements, hd, hq, hc]
      · have hc : op.change? = none := by
          cases op <;> first | rfl | simp [Operation.dismisses] at hd
        simp [announcements, hd, hc]

/-! ## The whole register -/

/-- A new listener is given the number after those that were given before. -/
lemma range_append_number (ls : Listeners) (op : Operation) :
    List.range ls.all.length ++ (ls.perform op).2.number?.toList =
      List.range (ls.step op).all.length := by
  cases op with
  | subscribe => simp [step, perform, subscribe, Answer.number?, List.range_succ]
  | unsubscribe m => simp [step, perform, unsubscribe_eq_modify, Answer.number?]
  | broadcast change => simp [step, perform, broadcast, Answer.number?]
  | clear => simp [step, perform, clear, Answer.number?]
  | receive m => simp [step, perform, receive_eq_modify, Answer.number?]
  | dropReceiver m => simp [step, perform, dropReceiver_eq_modify, Answer.number?]

lemma range_append_numbersIn (ls : Listeners) (ops : List Operation) :
    List.range ls.all.length ++ ls.numbersIn ops = List.range (ls.run ops).all.length := by
  induction ops generalizing ls with
  | nil => simp [numbersIn]
  | cons op ops ih => rw [numbersIn, ← List.append_assoc, range_append_number, ih, run_cons]

/-- The numbers given in a run of a new register count its listeners. -/
lemma numbersIn_empty (ops : List Operation) :
    empty.numbersIn ops = List.range (empty.run ops).all.length :=
  range_append_numbersIn empty ops

/-- Numbers that fit in 64 bits are told apart there. -/
lemma nodup_map_ofNat_range {k : Nat} (hk : k < UInt64.size) :
    ((List.range k).map UInt64.ofNat).Nodup := by
  refine List.Nodup.map_on (fun i hi j hj heq => ?_) List.nodup_range
  rw [List.mem_range] at hi hj
  have hsame := congrArg UInt64.toNat heq
  rwa [UInt64.toNat_ofNat_of_lt' (hi.trans hk), UInt64.toNat_ofNat_of_lt' (hj.trans hk)] at hsame

lemma isRegistered_of_length_le (hn : ls.all.length ≤ n) : ls.isRegistered n = false := by
  simp [isRegistered, List.getElem?_eq_none hn]

lemma isReading_of_length_le (hn : ls.all.length ≤ n) : ls.isReading n = false := by
  simp [isReading, List.getElem?_eq_none hn]

/-- Listeners are counted by their numbers. -/
lemma countP_range {p : Listener → Bool} {q : Nat → Bool}
    (h : ∀ n l, ls.all[n]? = some l → q n = p l) :
    (List.range ls.all.length).countP q = ls.all.countP p := by
  have hmap : (List.range ls.all.length).map q = ls.all.map p :=
    List.ext_getElem (by simp) fun i _ hi => by
      simpa using h i _ (List.getElem?_eq_getElem (by simpa using hi))
  simpa [List.countP_map] using congrArg (List.countP id) hmap

lemma size_eq_countP (ls : Listeners) :
    ls.size = (List.range ls.all.length).countP ls.isRegistered :=
  (countP_range fun _ _ hn => isRegistered_eq hn).symm

/-- An announcement leaves on the register who was on it and reads. -/
lemma isRegistered_broadcast (ls : Listeners) (change : Task.Change) (n : Nat) :
    (ls.broadcast change).1.isRegistered n = (ls.isRegistered n && ls.isReading n) := by
  rcases hn : ls.all[n]? with _ | l
  · simp [broadcast, isRegistered, hn]
  · have hnext : (ls.broadcast change).1.isRegistered n = _ :=
      isRegistered_eq (getElem?_step hn (.broadcast change))
    rw [hnext, registered_touch, isRegistered_eq hn, isReading_eq hn]
    simp [Operation.dismisses, Operation.change?]

/-- An announcement is heard by who is on the register and reads. -/
lemma broadcast_count (ls : Listeners) (change : Task.Change) :
    (ls.broadcast change).2 =
      (List.range ls.all.length).countP fun n => ls.isRegistered n && ls.isReading n := by
  have hlength : (ls.broadcast change).1.all.length = ls.all.length := by simp [broadcast]
  have hsize : (ls.broadcast change).2 = (ls.broadcast change).1.size := rfl
  rw [hsize, size_eq_countP, hlength]
  exact List.countP_congr fun n _ => by rw [isRegistered_broadcast]

lemma unsubscribe_eq_isRegistered (ls : Listeners) (n : Nat) :
    (ls.unsubscribe n).2 = ls.isRegistered n := by
  unfold unsubscribe
  split
  · next h => exact h.symm
  · next h => simpa using h

/-- A listener that leaves takes nobody else off the register. -/
lemma isRegistered_unsubscribe (ls : Listeners) (n m : Nat) :
    (ls.unsubscribe n).1.isRegistered m = (ls.isRegistered m && m != n) := by
  rcases hm : ls.all[m]? with _ | l
  · simp [unsubscribe_eq_modify, isRegistered, List.getElem?_modify, hm]
  · have hnext : (ls.unsubscribe n).1.isRegistered m = _ :=
      isRegistered_eq (getElem?_step hm (.unsubscribe n))
    rw [hnext, registered_touch, isRegistered_eq hm]
    simp [Operation.dismisses, Operation.change?, bne, Bool.beq_comm]

/-- Whoever reads finds all that waits, and the end just if it is off the register. -/
lemma receive_of_isReading (hr : ls.isReading n = true) :
    (ls.receive n).2 = some ⟨ls.pending n, !ls.isRegistered n⟩ := by
  rcases hn : ls.all[n]? with _ | l
  · simp [isReading, hn] at hr
  · rw [isReading_eq hn] at hr
    simp [receive, pending, isRegistered, hn, hr]

lemma length_le_run (ls : Listeners) (ops : List Operation) :
    ls.all.length ≤ (ls.run ops).all.length := by
  have hlength := congrArg List.length (range_append_numbersIn ls ops)
  simp only [List.length_append, List.length_range] at hlength
  omega

/-- Nobody reads under a number before it is given. -/
lemma heardIn_of_length_le {ops : List Operation} (hn : (ls.run ops).all.length ≤ n) :
    heardIn n ls ops = [] := by
  induction ops generalizing ls with
  | nil => rfl
  | cons op ops ih =>
    have hnone : ls.all[n]? = none :=
      List.getElem?_eq_none (Nat.le_trans (length_le_run ls (op :: ops)) hn)
    have hnow : heardBy n ls op = [] := by
      cases op with
      | receive m =>
        by_cases hm : m = n
        · subst hm
          simp [heardBy, perform, receive, hnone]
        · exact heardBy_receive_of_ne hm ls
      | _ => rfl
    rw [heardIn, hnow, ih hn, List.append_nil]

/-! ## Runs of a new register -/

lemma getElem?_step_subscribe (ls : Listeners) :
    (ls.step .subscribe).all[ls.subscribe.2]? = some .fresh := by
  simp [step, perform, subscribe]

/-- A listener that subscribes is the last one on the register, and the rest of the run touches it
like all others. -/
lemma getElem?_run_subscribe (ls : Listeners) (before after : List Operation) :
    let n := (ls.run before).subscribe.2
    (ls.run (before ++ .subscribe :: after)).all[n]? = some (touchAll n .fresh after) := by
  intro n
  rw [run_append]
  exact getElem?_run (getElem?_step_subscribe (ls.run before)) after

/-- A listener is told of what was announced since it subscribed until it was dismissed or stopped
reading. -/
lemma told_since_subscribe (before after : List Operation) :
    let n := (empty.run before).subscribe.2
    let ops := before ++ .subscribe :: after
    heardIn n empty ops ++ (empty.run ops).pending n =
      announcements ((after.takeWhile (!·.dismisses n)).takeWhile (!·.quits n)) := by
  intro n ops
  have hnew : ((empty.run before).step .subscribe).all[n]? = some .fresh :=
    getElem?_step_subscribe (empty.run before)
  have hbefore : heardIn n empty before = [] := heardIn_of_length_le (Nat.le_refl _)
  have hheard : heardIn n empty ops = heardIn n ((empty.run before).step .subscribe) after := by
    rw [heardIn_append, hbefore]
    rfl
  have hrun : empty.run ops = ((empty.run before).step .subscribe).run after :=
    run_append empty before _
  rw [hheard, hrun, told_eq hnew after]
  rfl

/-- **A register tells exactly those who are on it.**  In every run of a new register no number is
given twice, not even as a number of 64 bits if there are fewer listeners than such numbers.  Each
listener that still reads has read, or finds waiting, exactly what was announced since it subscribed
until it left or the register was cleared, each change once and in order; one that stopped reading
had read the first of these changes.  A listener reads until it stops, and is on the register until
it leaves, the register is cleared, or it is found out.

An announcement is heard by the listeners on the register that read, which are counted, and these
are on the register after it.  Whoever leaves is told whether it was on the register.  And whoever
reads finds all that waits for it, and the end just if it is not on the register. -/
theorem tells_exactly_registered (ops : List Operation) :
    let ls := empty.run ops
    let numbers := empty.numbersIn ops
    (numbers.Nodup ∧ (numbers.length < UInt64.size → (numbers.map UInt64.ofNat).Nodup)) ∧
    (∀ before after, ops = before ++ .subscribe :: after →
      let n := (empty.run before).subscribe.2
      let due := announcements (after.takeWhile (!·.dismisses n))
      ls.isReading n = after.all (!·.quits n) ∧
      ls.isRegistered n = (after.all (!·.dismisses n) && !isFoundOut n after) ∧
      heardIn n empty ops <+: due ∧
      (ls.isReading n = true → heardIn n empty ops ++ ls.pending n = due)) ∧
    (∀ n, n ∉ numbers → ls.isReading n = false ∧ ls.isRegistered n = false) ∧
    ls.size = numbers.countP ls.isRegistered ∧
    (∀ change, (ls.broadcast change).2 =
        numbers.countP (fun n => ls.isRegistered n && ls.isReading n) ∧
      ∀ n, (ls.broadcast change).1.isRegistered n = (ls.isRegistered n && ls.isReading n)) ∧
    (∀ n, (ls.unsubscribe n).2 = ls.isRegistered n ∧
      ∀ m, (ls.unsubscribe n).1.isRegistered m = (ls.isRegistered m && m != n)) ∧
    ∀ n, ls.isReading n = true → (ls.receive n).2 = some ⟨ls.pending n, !ls.isRegistered n⟩ := by
  intro ls numbers
  have hnumbers : numbers = List.range ls.all.length := numbersIn_empty ops
  refine ⟨⟨?_, fun hfew => ?_⟩, ?_, fun n hn => ?_, ?_, fun change => ⟨?_, ?_⟩, fun n => ⟨?_, ?_⟩,
    fun n => receive_of_isReading⟩
  · rw [hnumbers]
    exact List.nodup_range
  · rw [hnumbers] at hfew ⊢
    exact nodup_map_ofNat_range (by simpa using hfew)
  · rintro before after rfl n due
    have hend : ls.all[n]? = some (touchAll n .fresh after) :=
      getElem?_run_subscribe empty before after
    have htold : heardIn n empty (before ++ .subscribe :: after) ++ ls.pending n =
        announcements ((after.takeWhile (!·.dismisses n)).takeWhile (!·.quits n)) :=
      told_since_subscribe before after
    have hreading : ls.isReading n = after.all (!·.quits n) := by
      rw [isReading_eq hend, receiverHeld_touchAll]
      rfl
    refine ⟨hreading, ?_, ?_, fun hr => ?_⟩
    · rw [isRegistered_eq hend, registered_touchAll rfl]
      rfl
    · have hinitial : (after.takeWhile (!·.dismisses n)).takeWhile (!·.quits n) <+:
          after.takeWhile (!·.dismisses n) := List.takeWhile_prefix _
      exact (htold ▸ List.prefix_append _ _).trans (hinitial.filterMap Operation.change?)
    · -- It never stopped reading, so only a dismissal cuts it off.
      rw [hreading, List.all_eq_true] at hr
      have hstays : (after.takeWhile (!·.dismisses n)).takeWhile (!·.quits n) =
          after.takeWhile (!·.dismisses n) :=
        List.takeWhile_eq_self_iff.2 fun op hop => hr op ((List.takeWhile_sublist _).subset hop)
      rw [htold, hstays]
  · have hlength : ls.all.length ≤ n := by simpa [hnumbers] using hn
    exact ⟨isReading_of_length_le hlength, isRegistered_of_length_le hlength⟩
  · rw [hnumbers]
    exact size_eq_countP ls
  · rw [hnumbers]
    exact broadcast_count ls change
  · exact isRegistered_broadcast ls change
  · exact unsubscribe_eq_isRegistered ls n
  · exact isRegistered_unsubscribe ls n

/-- A listener that stopped reading is on the register until the next announcement, which it does
not hear. -/
example (change : Task.Change) :
    let ls := empty.run [.subscribe, .subscribe, .dropReceiver 0]
    ls.size = 2 ∧ (ls.broadcast change).2 = 1 ∧
      (ls.broadcast change).1.isRegistered 0 = false := by
  exact ⟨rfl, rfl, rfl⟩

end SharedTerminal.Session.Listeners
