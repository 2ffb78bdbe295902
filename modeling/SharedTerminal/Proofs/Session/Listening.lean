import SharedTerminal.Proofs.Session.Ending

/-!
# One listener in one operation

`attend` is what an operation does to one listener of a session, whatever it does to the others.
`getElem?_listeners_step` says so for a session that goes on, where the listener is forgotten on
top of that if the session ends, and `getElem?_listeners_step_of_isClosed` for one that has ended.
Operations that are not about listeners do the same whoever listens (`prepared_withListeners`).
-/

namespace SharedTerminal.Session

variable {s : Session} {given : Bool} {n : Nat} {l : Listener} {op : Operation}

/-! ## Listeners by number -/

/-- Two changes of one entry that come to the same there come to the same. -/
lemma modify_congr_of_mem {α : Type} {f g : α → α} {xs : List α} {i : Nat}
    (h : ∀ x ∈ xs[i]?, f x = g x) : xs.modify i f = xs.modify i g := by
  apply List.ext_getElem?
  intro j
  rw [List.getElem?_modify, List.getElem?_modify]
  by_cases hij : i = j
  · subst hij
    rcases hx : xs[i]? with _ | x
    · rfl
    · simp [h x hx]
  · simp [hij]

/-- A change of one entry that leaves it as it is changes nothing. -/
lemma modify_eq_self_of_mem {α : Type} {f : α → α} {xs : List α} {i : Nat}
    (h : ∀ x ∈ xs[i]?, f x = x) : xs.modify i f = xs :=
  (modify_congr_of_mem h).trans (List.modify_id i xs)

lemma unsubscribe_eq_modify (ls : Listeners) (m : Nat) :
    (ls.unsubscribe m).1 = ⟨ls.all.modify m Listener.forget⟩ := by
  unfold Listeners.unsubscribe
  split
  · rfl
  · next hr =>
    -- Who is not on the register is forgotten already.
    have hsame : ls.all.modify m Listener.forget = ls.all := by
      refine modify_eq_self_of_mem fun l hl => ?_
      have hnot : l.registered = false := by
        rw [Option.mem_def] at hl
        simpa [Listeners.isRegistered, hl] using hr
      rw [Listener.forget, ← hnot]
    rw [hsame]

lemma dropReceiver_eq_modify (ls : Listeners) (m : Nat) :
    (ls.dropReceiver m).1 = ⟨ls.all.modify m fun l => { l with receiverHeld := false }⟩ := by
  unfold Listeners.dropReceiver
  split
  · rfl
  · next hr =>
    have hsame : ls.all.modify m (fun l => { l with receiverHeld := false }) = ls.all := by
      refine modify_eq_self_of_mem fun l hl => ?_
      have hnot : l.receiverHeld = false := by
        rw [Option.mem_def] at hl
        simpa [Listeners.isReading, hl] using hr
      rw [← hnot]
    rw [hsame]

lemma receive_eq_modify (ls : Listeners) (m : Nat) :
    (ls.receive m).1 =
      ⟨ls.all.modify m fun l => if l.receiverHeld then { l with queue := [] } else l⟩ := by
  rcases hl : ls.all[m]? with _ | l
  · have hsame : ls.all.modify m
        (fun l => if l.receiverHeld then { l with queue := [] } else l) = ls.all :=
      modify_eq_self_of_mem (by simp [hl])
    simp [Listeners.receive, hl, hsame]
  · rcases hr : l.receiverHeld with _ | _
    · have hsame : ls.all.modify m
          (fun l => if l.receiverHeld then { l with queue := [] } else l) = ls.all :=
        modify_eq_self_of_mem (by simp [hl, hr])
      simp [Listeners.receive, hl, hr, hsame]
    · have hsame : ls.all.modify m
          (fun l => if l.receiverHeld then { l with queue := [] } else l) =
          ls.all.modify m fun l => { l with queue := [] } :=
        modify_congr_of_mem (by simp [hl, hr])
      simp [Listeners.receive, hl, hr, hsame]

lemma getElem?_subscribe (hn : s.listeners.all[n]? = some l) :
    s.subscribe.1.listeners.all[n]? = some l := by
  have hlt : n < s.listeners.all.length := (List.getElem?_eq_some_iff.1 hn).1
  unfold subscribe
  split
  · exact hn
  · simp only [Listeners.subscribe]
    rw [List.getElem?_append_left hlt, hn]

/-! ## Operations that are not about listeners -/

/-- The session with other listeners. -/
def withListeners (s : Session) (ls : Listeners) : Session := { s with listeners := ls }

/-- Whether an operation is about the register of listeners or one of their queues. -/
def Operation.isForListeners : Operation → Bool
  | .changeStatus _ | .subscribe | .unsubscribe _ | .listen _ | .dropListener _ => true
  | _ => false

lemma request_withListeners (s : Session) (ls : Listeners) (name : String)
    (command : Engine.Command) :
    ((s.withListeners ls).request name command).1 =
      (s.request name command).1.withListeners ls := by
  have hsame : (s.withListeners ls).drivenProcess name = s.drivenProcess name := rfl
  unfold request
  rw [hsame]
  split
  · rfl
  · split <;> rfl

lemma moved_withListeners (ho : op.isForListeners = false) (hop : op ≠ .shutdown)
    (ls : Listeners) : (s.withListeners ls).moved op = (s.moved op).withListeners ls := by
  cases op with
  | attachDriver c startup =>
    have hsame : (s.withListeners ls).lifecycle = s.lifecycle := rfl
    rcases hp : s.lifecycle.driver with _ | _ | _
    · rcases hout : startup.outcome with e | u
      · simp only [moved, hsame, hp, hout]
      · simp only [moved, hsame, hp, hout]
        rfl
    · simp only [moved, hsame, hp]
      rfl
    · simp only [moved, hsame, hp]
      rfl
  | attachObserver c => rfl
  | detachDriver name =>
    have hsame : (s.withListeners ls).seats = s.seats := rfl
    simp only [moved, hsame]
    split <;> rfl
  | detachObserver name =>
    have hsame : (s.withListeners ls).seats = s.seats := rfl
    simp only [moved, hsame]
    split <;> rfl
  | write chunk =>
    have hsame : (s.withListeners ls).loses .driver = s.loses .driver := rfl
    simp only [moved, hsame]
    split <;> rfl
  | submit name bytes => exact request_withListeners s ls name _
  | resize name cols rows => exact request_withListeners s ls name _
  | receive k max =>
    simp only [moved, step, perform, receive]
    have hsame : (s.withListeners ls).seats = s.seats := rfl
    rw [hsame]
    rcases s.seats[k]? with _ | it
    · rfl
    · rcases hr : it.channel.receiverHeld with _ | _
      · simp [hr]
      · simp [hr]
        rfl
  | dropReceiver k =>
    simp only [moved, step, perform, dropReceiver]
    have hsame : (s.withListeners ls).seats = s.seats := rfl
    rw [hsame]
    rcases s.seats[k]? with _ | it <;> rfl
  | takeCommands =>
    simp only [moved, step, perform, takeCommands]
    have hsame : (s.withListeners ls).process = s.process := rfl
    rw [hsame]
    rcases s.process with _ | p
    · rfl
    · rcases hr : p.running with _ | _ <;> simp [hr, withListeners]
  | dropProcess =>
    simp only [moved, step, perform, dropProcess]
    have hsame : (s.withListeners ls).process = s.process := rfl
    rw [hsame]
    rcases s.process with _ | p <;> rfl
  | flushLog =>
    simp only [moved, step, perform, flushLog]
    have hsame : (s.withListeners ls).log = s.log := rfl
    rw [hsame]
    rcases s.log with _ | c <;> rfl
  | shutdown => exact absurd rfl hop
  | _ => simp [Operation.isForListeners] at ho

lemma prepared_withListeners (ho : op.isForListeners = false) (s : Session) (ls : Listeners) :
    (s.withListeners ls).prepared op = (s.prepared op).withListeners ls := by
  by_cases hop : op = .shutdown
  · subst hop
    rfl
  · rw [prepared_of_ne hop, prepared_of_ne hop]
    exact moved_withListeners ho hop ls

/-! ## One listener -/

/-- What an operation does to the listener with a number, of a session that goes on. -/
def attend (op : Operation) (n : Nat) (l : Listener) : Listener :=
  match op with
  | .changeStatus change => l.hear change
  | .unsubscribe m => if m = n then l.forget else l
  | .listen m => if m = n ∧ l.receiverHeld = true then { l with queue := [] } else l
  | .dropListener m => if m = n then { l with receiverHeld := false } else l
  | _ => l

/-- What an operation does to a listener before the session ends or goes on. -/
lemma getElem?_listeners_prepared (hn : s.listeners.all[n]? = some l) (op : Operation) :
    (s.prepared op).listeners.all[n]? = some (attend op n l) := by
  rcases ho : op.isForListeners with _ | _
  · have hsame : (s.prepared op).listeners = s.listeners := by
      have hprepared := prepared_withListeners ho s s.listeners
      have hself : s.withListeners s.listeners = s := rfl
      rw [hself] at hprepared
      rw [hprepared]
      rfl
    have hattend : attend op n l = l := by
      cases op <;> simp_all [Operation.isForListeners, attend]
    rw [hsame, hattend, hn]
  · cases op with
    | changeStatus change =>
      simp [prepared, moved, announced, Listeners.broadcast, hn, attend]
    | subscribe => exact getElem?_subscribe hn
    | unsubscribe m =>
      simp only [prepared, moved, unsubscribe_eq_modify, attend, List.getElem?_modify, hn]
      split <;> rfl
    | listen m =>
      have hstep : (s.prepared (.listen m)).listeners = (s.listeners.receive m).1 := rfl
      simp only [hstep, receive_eq_modify, attend, List.getElem?_modify, hn]
      by_cases hm : m = n
      · rcases hr : l.receiverHeld with _ | _ <;> simp [hm, hr]
      · simp [hm]
    | dropListener m =>
      have hstep : (s.prepared (.dropListener m)).listeners = (s.listeners.dropReceiver m).1 := rfl
      simp only [hstep, dropReceiver_eq_modify, attend, List.getElem?_modify, hn]
      split <;> rfl
    | _ => simp [Operation.isForListeners] at ho

/-- What an operation does to a listener of a session that goes on: it is told, and forgotten if
the session ends. -/
lemma getElem?_listeners_step (h : s.IsOpen given) (hn : s.listeners.all[n]? = some l)
    (op : Operation) :
    (s.step op).listeners.all[n]? =
      some (if (s.step op).isDestroyed then (attend op n l).forget else attend op n l) := by
  have hprepared := getElem?_listeners_prepared hn op
  have hstep := h.step_eq_prepared op
  rcases hd : (s.step op).isDestroyed with _ | _
  · rw [hd, if_neg (by decide)] at hstep
    rw [hstep, hprepared]
    rfl
  · rw [hd, if_pos rfl] at hstep
    rw [hstep]
    simp [concluded, dismantle, Listeners.clear, hprepared]

/-- Once a session has ended, a listener changes only by what it does itself. -/
lemma getElem?_listeners_step_of_isClosed (h : s.IsClosed given)
    (hn : s.listeners.all[n]? = some l) (op : Operation) :
    (s.step op).listeners.all[n]? = some (if op.isQuiet then attend op n l else l) := by
  rcases hq : op.isQuiet with _ | _
  · rw [h.step_eq_self hq, hn]
    rfl
  · rw [← prepared_of_isQuiet hq, getElem?_listeners_prepared hn]
    rfl

end SharedTerminal.Session
