import SharedTerminal.Proofs.Session.Delivery
import SharedTerminal.Proofs.Session.Listening

/-!
# Announcements

Every listener has a queue of its own.  What it has read so far, followed by what still waits for
it, is what it was `told`, and that is the changes that the session took note of since it
subscribed, until it leaves, stops reading, or the session ends (`told_eq`).

A change of status goes through `stages`: the observers get the marker of a final status first,
then the listeners get the change, and only then may the session end and close their queues
(`IsOpen.stages_listener`).
-/

namespace SharedTerminal.Session

variable {s : Session} {given : Bool} {n : Nat} {l : Listener} {op : Operation}

/-! ## What is announced, and what a listener hears -/

/-- The change that an operation is about. -/
def Operation.change? : Operation → Option Task.Change
  | .changeStatus change => some change
  | _ => none

/-- The change that a session takes note of in an operation. -/
def reported (s : Session) (op : Operation) : List Task.Change :=
  match op.change?, (s.perform op).2 with
  | some change, .done (.ok ()) => [change]
  | _, _ => []

/-- The changes that a session takes note of in a list of operations, in order. -/
def reportedIn (s : Session) : List Operation → List Task.Change
  | [] => []
  | op :: ops => s.reported op ++ reportedIn (s.step op) ops

/-- The changes that a listener reads in an operation. -/
def heardBy (n : Nat) (s : Session) (op : Operation) : List Task.Change :=
  match op, (s.perform op).2 with
  | .listen m, .heard (some found) => if m = n then found.changes else []
  | _, _ => []

/-- The changes that a listener reads in a list of operations. -/
def heardIn (n : Nat) (s : Session) : List Operation → List Task.Change
  | [] => []
  | op :: ops => heardBy n s op ++ heardIn n (s.step op) ops

/-- The changes that wait for a listener. -/
def pending (n : Nat) (s : Session) : List Task.Change := s.listeners.all[n]?.elim [] Listener.queue

/-- Every change that the queue of a listener has taken in by the end of a list of operations. -/
def told (n : Nat) (s : Session) (ops : List Operation) : List Task.Change :=
  heardIn n s ops ++ pending n (s.run ops)

/-- Whether a listener will be told of the next change. -/
def Listener.isTold (l : Listener) : Bool := l.registered && l.receiverHeld

/-- Whether a listener leaves or stops reading in an operation. -/
def Operation.dismisses (n : Nat) : Operation → Bool
  | .unsubscribe m | .dropListener m => m == n
  | _ => false

lemma told_nil (hn : s.listeners.all[n]? = some l) : told n s [] = l.queue := by
  simp [told, heardIn, pending, hn]

lemma told_cons (n : Nat) (s : Session) (op : Operation) (ops : List Operation) :
    told n s (op :: ops) = heardBy n s op ++ told n (s.step op) ops := by
  simp [told, heardIn]

lemma reported_of_change?_eq_none (hop : op.change? = none) (s : Session) :
    s.reported op = [] := by
  simp [reported, hop]

/-- A session takes note of every change until it ends. -/
lemma IsSound.reported_eq (h : s.IsSound given) (op : Operation) :
    s.reported op = if s.isDestroyed then [] else op.change?.toList := by
  rcases hop : op.change? with _ | change
  · simp [reported_of_change?_eq_none hop]
  · cases op with
    | changeStatus =>
      cases hop
      rw [h.isDestroyed_eq]
      rcases hd : s.lifecycle.destroyed with _ | _
      · simp [reported, Operation.change?, perform, changeStatus_eq hd]
      · simp [reported, Operation.change?, perform, changeStatus, hd]
    | _ => simp [Operation.change?] at hop

lemma change?_of_dismisses (hop : op.dismisses n = true) : op.change? = none := by
  cases op <;> first | rfl | simp [Operation.dismisses] at hop

lemma IsClosed.reportedIn_eq_nil (h : s.IsClosed given) (ops : List Operation) :
    s.reportedIn ops = [] := by
  induction ops generalizing s with
  | nil => rfl
  | cons op ops ih =>
    have hended : s.isDestroyed = true := h.marked
    rw [reportedIn, h.isSound.reported_eq, if_pos hended, ih (h.step op), List.append_nil]

/-! ## One step -/

lemma heardBy_listen (hn : s.listeners.all[n]? = some l) :
    heardBy n s (.listen n) = if l.receiverHeld then l.queue else [] := by
  rcases hr : l.receiverHeld with _ | _ <;>
    simp [heardBy, perform, listen, Listeners.receive, hn, hr]

lemma heardBy_listen_of_ne {m : Nat} (hm : m ≠ n) (s : Session) :
    heardBy n s (.listen m) = [] := by
  unfold heardBy
  split
  · next heq _ =>
    cases heq
    simp [hm]
  · rfl

lemma heardBy_of_not_isQuiet (hq : op.isQuiet = false) (n : Nat) (s : Session) :
    heardBy n s op = [] := by
  cases op <;> first | rfl | simp [Operation.isQuiet] at hq

/-- One operation adds to a queue the change that it is about, if the listener is told of it, and
takes out of it what was read. -/
lemma heardBy_append_attend (hn : s.listeners.all[n]? = some l) (op : Operation) :
    heardBy n s op ++ (attend op n l).queue =
      l.queue ++ if l.isTold then op.change?.toList else [] := by
  cases op with
  | changeStatus change =>
    rcases hr : l.registered with _ | _ <;> rcases hh : l.receiverHeld with _ | _ <;>
      simp [heardBy, attend, Listener.hear, Listener.isTold, Operation.change?, hr, hh]
  | unsubscribe m =>
    simp only [heardBy, attend, Operation.change?]
    split <;> simp [Listener.forget]
  | listen m =>
    by_cases hm : m = n
    · subst hm
      rw [heardBy_listen hn]
      rcases hh : l.receiverHeld with _ | _ <;> simp [attend, Operation.change?, hh]
    · simp [heardBy_listen_of_ne hm, attend, Operation.change?, hm]
  | dropListener m =>
    simp only [heardBy, attend, Operation.change?]
    split <;> simp
  | _ => simp [heardBy, attend, Operation.change?]

/-- Who is off the register, or stopped reading, stays so, and everyone else is told until they
leave. -/
lemma isTold_attend (op : Operation) (n : Nat) (l : Listener) :
    (attend op n l).isTold = (l.isTold && !op.dismisses n) := by
  cases op with
  | changeStatus change =>
    rcases hr : l.registered with _ | _ <;> rcases hh : l.receiverHeld with _ | _ <;>
      simp [attend, Listener.hear, Listener.isTold, Operation.dismisses, hr, hh]
  | unsubscribe m =>
    by_cases hm : m = n <;>
      simp [attend, Listener.isTold, Listener.forget, Operation.dismisses, hm]
  | listen m =>
    simp only [attend, Operation.dismisses]
    split <;> simp [Listener.isTold]
  | dropListener m =>
    by_cases hm : m = n <;> simp [attend, Listener.isTold, Operation.dismisses, hm]
  | _ => simp [attend, Operation.dismisses]

/-- One operation, seen from one listener: its queue changes by what was announced and what was
read, and it goes on being told unless it leaves, stops reading, or the session ends. -/
lemma exists_listener_step (h : s.IsSound given) (hn : s.listeners.all[n]? = some l)
    (op : Operation) :
    ∃ next, (s.step op).listeners.all[n]? = some next ∧
      heardBy n s op ++ next.queue = l.queue ++ (if l.isTold then s.reported op else []) ∧
      next.isTold = (l.isTold && !op.dismisses n && !(s.step op).isDestroyed) := by
  have hqueue := heardBy_append_attend hn op
  have htold := isTold_attend op n l
  rcases h with h | h
  · have hlive : s.isDestroyed = false := h.unmarked
    rw [h.isSound.reported_eq, hlive]
    refine ⟨_, getElem?_listeners_step h hn op, ?_⟩
    rcases hd : (s.step op).isDestroyed with _ | _
    · simpa using ⟨hqueue, htold⟩
    · simpa [Listener.forget, Listener.isTold] using hqueue
  · -- Nobody is on the register any more.
    have hgone : l.isTold = false := by
      simp [Listener.isTold, h.unheard l (List.mem_of_getElem? hn)]
    refine ⟨_, getElem?_listeners_step_of_isClosed h hn op, ?_⟩
    rcases hq : op.isQuiet with _ | _
    · simp [heardBy_of_not_isQuiet hq, hgone]
    · simpa [hgone] using And.intro hqueue htold

/-! ## Whole runs -/

/-- What a listener is told is what was announced until it left. -/
lemma IsSound.told_eq (h : s.IsSound given) (hn : s.listeners.all[n]? = some l)
    (ops : List Operation) :
    told n s ops = l.queue ++
      if l.isTold then s.reportedIn (ops.takeWhile (!·.dismisses n)) else [] := by
  induction ops generalizing s l with
  | nil => simp [told_nil hn, reportedIn]
  | cons op ops ih =>
    obtain ⟨next, hnext, hqueue, htold⟩ := exists_listener_step h hn op
    rw [told_cons, ih (h.step op) hnext, ← List.append_assoc, hqueue, htold, List.append_assoc]
    congr 1
    rcases ht : l.isTold with _ | _
    · rfl
    · rcases hop : op.dismisses n with _ | _
      · rcases hd : (s.step op).isDestroyed with _ | _
        · simp [hop, reportedIn]
        · -- The session has ended, and nothing is announced any more.
          have hnone := ((h.step op).isClosed hd).reportedIn_eq_nil
          simp [hop, reportedIn, hnone]
      · simp [hop, reportedIn, reported_of_change?_eq_none (change?_of_dismisses hop)]

/-- A listener that does not leave is told until the session ends. -/
lemma IsSound.isTold_run (h : s.IsSound given) (hn : s.listeners.all[n]? = some l)
    (ht : l.isTold = !s.isDestroyed) {ops : List Operation}
    (hstay : ops.all (!·.dismisses n) = true) :
    ∃ next, (s.run ops).listeners.all[n]? = some next ∧
      next.isTold = !(s.run ops).isDestroyed := by
  induction ops generalizing s l with
  | nil => exact ⟨l, hn, ht⟩
  | cons op ops ih =>
    rw [List.all_cons, Bool.and_eq_true] at hstay
    obtain ⟨next, hnext, _, htold⟩ := exists_listener_step h hn op
    refine ih (h.step op) hnext ?_ hstay.2
    rw [htold, ht, hstay.1, Bool.and_true]
    rcases hd : s.isDestroyed with _ | _
    · rfl
    · simp [(h.isDestroyed_step op).2 (Or.inl hd)]

lemma isRegistered_eq_true_iff (ls : Listeners) (n : Nat) :
    ls.isRegistered n = true ↔ ∃ l, ls.all[n]? = some l ∧ l.registered = true := by
  unfold Listeners.isRegistered
  split
  · next l hl => simp [hl]
  · next hl => simp [hl]

/-- The queue of a listener that does not leave is closed just if the session has ended. -/
lemma IsSound.isRegistered_run (h : s.IsSound given) (hn : s.listeners.all[n]? = some l)
    (ht : l.isTold = !s.isDestroyed) {ops : List Operation}
    (hstay : ops.all (!·.dismisses n) = true) :
    (s.run ops).listeners.isRegistered n = !(s.run ops).isDestroyed := by
  obtain ⟨next, hnext, htold⟩ := h.isTold_run hn ht hstay
  rw [Bool.eq_iff_iff, isRegistered_eq_true_iff]
  rcases hd : (s.run ops).isDestroyed with _ | _
  · rw [hd, Listener.isTold, Bool.not_false, Bool.and_eq_true] at htold
    simp [hnext, htold.1]
  · have hgone := ((h.run ops).isClosed hd).unheard next (List.mem_of_getElem? hnext)
    simp [hnext, hgone]

lemma getElem?_of_subscribe (hok : s.subscribe.2 = .ok n) :
    s.subscribe.1.listeners.all[n]? = some Listener.fresh := by
  unfold subscribe at hok ⊢
  split at hok
  · simp at hok
  · next hd =>
    cases hok
    rw [if_neg hd]
    simp [Listeners.subscribe]

/-! ## The order within one change of status -/

/-- The states of a session in a change of status: the one in which its lifecycle has taken note of
it, and the one after each effect. -/
def stages (s : Session) (change : Task.Change) : List Session :=
  let (next, effects) := s.lifecycle.apply (.statusChanged change.after)
  effects.scanl (carryOut (some change)) { s with lifecycle := next }

lemma getLast?_stages (hd : s.lifecycle.destroyed = false) (change : Task.Change) :
    (s.stages change).getLast? = some (s.changeStatus change).1 := by
  simp [stages, changeStatus, happen, hd, List.getLast?_scanl]

/-- The session after the observers got the marker of a final status. -/
def informed (s : Session) (change : Task.Change) : Session :=
  if change.isFinal then s.appendCompletion change.after else s

/-- A change of status is noted, then the observers are told of a final one, then the listeners of
any, and at last the session may end. -/
lemma of_mem_stages (hd : s.lifecycle.destroyed = false) {change : Task.Change} {t : Session}
    (ht : t ∈ s.stages change) :
    ∃ next, let noted := { s with lifecycle := next }
      let heard := carryOut (some change) (noted.informed change) .notifyListeners
      t = noted ∨ t = noted.informed change ∨ t = heard ∨ t = heard.dismantle := by
  refine ⟨(s.lifecycle.apply (.statusChanged change.after)).1, ?_⟩
  have heffects : (s.lifecycle.apply (.statusChanged change.after)).2 =
      Lifecycle.report change.after ∨
      (s.lifecycle.apply (.statusChanged change.after)).2 =
        Lifecycle.report change.after ++ [.destroy] := by
    simp only [Lifecycle.apply, hd, Bool.false_eq_true, if_false, Lifecycle.settle]
    split
    · exact Or.inr rfl
    · exact Or.inl rfl
  simp only [stages] at ht
  generalize s.lifecycle.apply (.statusChanged change.after) = applied at ht heffects ⊢
  rcases hf : change.isFinal with _ | _
  · have hinformed : ∀ u : Session, u.informed change = u := fun u => by simp [informed, hf]
    have hreport : Lifecycle.report change.after = [.notifyListeners] := by
      simpa [Lifecycle.report, Task.Change.isFinal] using hf
    rw [hreport] at heffects
    simp only [hinformed]
    rcases heffects with he | he <;>
      simp only [he, List.cons_append, List.nil_append, List.scanl_cons, List.scanl_nil,
        List.mem_cons, List.not_mem_nil, or_false] at ht <;> tauto
  · have hinformed : ∀ u : Session, u.informed change = u.appendCompletion change.after :=
      fun u => by simp [informed, hf]
    have hreport : Lifecycle.report change.after =
        [.appendCompletion change.after, .notifyListeners] := if_pos hf
    rw [hreport] at heffects
    simp only [hinformed]
    rcases heffects with he | he <;>
      simp only [he, List.cons_append, List.nil_append, List.scanl_cons, List.scanl_nil,
        List.mem_cons, List.not_mem_nil, or_false] at ht <;> tauto

/-- In a state of a session, the marker of a final status has reached every observer that had
room for it before. -/
def IsMarked (s : Session) (change : Task.Change) (t : Session) : Prop :=
  change.isFinal = true → ∀ k seat, s.seats[k]? = some seat → seat.role = .observer →
    seat.channel.accepts = true →
    waiting k t = seat.channel.queue ++ [utf8 change.after.completionMarker]

/-- In a state of a session, a listener that waits for a change either was not told yet, or it was
told, after the observers got the marker, and its queue is closed just if the session has ended. -/
def IsTimely (s : Session) (change : Task.Change) (n : Nat) (l : Listener) (t : Session) : Prop :=
  ∃ next, t.listeners.all[n]? = some next ∧
    (next = l ∨
      next.queue = l.queue ++ [change] ∧ next.registered = !t.isDestroyed ∧ s.IsMarked change t)

lemma isMarked_informed (s : Session) (next : Lifecycle) (change : Task.Change) :
    s.IsMarked change ({ s with lifecycle := next }.informed change) := by
  intro hf k seat hk hrole hroom
  have hheld : seat.role ≠ .released := by simp [hrole]
  simp [informed, hf, waiting, appendCompletion, hk, Seat.offerObserver, hrole,
    Seat.offer_queue hheld, hroom]

lemma waiting_dismantle (k : Nat) (s : Session) : waiting k s.dismantle = waiting k s := by
  rcases hk : s.seats[k]? with _ | seat <;> simp [waiting, dismantle, hk]

/-- The change reaches the listener in whatever state the listeners are told, and its queue is
closed after that. -/
lemma isTimely_heard {t : Session} {change : Task.Change} (hn : t.listeners.all[n]? = some l)
    (ht : l.isTold = true) (hlive : t.ended = false) (hmarked : s.IsMarked change t) :
    IsTimely s change n l (carryOut (some change) t .notifyListeners) ∧
      IsTimely s change n l (carryOut (some change) t .notifyListeners).dismantle := by
  have hnext : (carryOut (some change) t .notifyListeners).listeners.all[n]? =
      some (l.hear change) := by
    simp [carryOut, Listeners.broadcast, hn]
  simp only [Listener.isTold, Bool.and_eq_true] at ht
  have hqueue : (l.hear change).queue = l.queue ++ [change] := by
    simp [Listener.hear, ht.1, ht.2]
  refine ⟨⟨_, hnext, Or.inr ⟨hqueue, ?_, hmarked⟩⟩,
    ⟨(l.hear change).forget, ?_, Or.inr ⟨hqueue, rfl, ?_⟩⟩⟩
  · simp [Listener.hear, ht.1, ht.2, carryOut, isDestroyed, hlive]
  · simp only [dismantle, Listeners.clear, List.getElem?_map, hnext, Option.map_some]
  · intro hf k seat hk hrole hroom
    rw [waiting_dismantle]
    exact hmarked hf k seat hk hrole hroom

/-- The listeners are told of a final status after the observers, and before the session ends. -/
lemma IsOpen.isTimely_stages (h : s.IsOpen given) (hn : s.listeners.all[n]? = some l)
    (ht : l.isTold = true) (change : Task.Change) :
    ∀ t ∈ s.stages change, IsTimely s change n l t := by
  intro t hmem
  obtain ⟨next, hcases⟩ := of_mem_stages h.live hmem
  have hsame : ({ s with lifecycle := next }.informed change).listeners.all[n]? = some l := by
    rw [informed]
    split <;> exact hn
  have hlive : ({ s with lifecycle := next }.informed change).ended = false := by
    rw [informed]
    split <;> exact h.unmarked
  have hheard := isTimely_heard hsame ht hlive (isMarked_informed s next change)
  rcases hcases with rfl | rfl | rfl | rfl
  · exact ⟨l, hn, Or.inl rfl⟩
  · exact ⟨l, hsame, Or.inl rfl⟩
  · exact hheard.1
  · exact hheard.2

end SharedTerminal.Session
