import SharedTerminal.Proofs.Session.Keeping

/-!
# Listeners do not depend on each other

A listener that stops reading is found out and forgotten at the next announcement.  That may be
long before it leaves, and then its leaving does not make the session ask itself any more whether it
goes on.  Still nobody else can tell: `DiffersAt` relates a session with the one in which a listener
never stopped reading, and `Unnoticed` adds what is known of a listener that was found out already,
namely that the session has a use without it.  Operations keep both related (`Unnoticed.step`).

The main statement on listeners is `run_announcements`.
-/

namespace SharedTerminal.Session

variable {s t : Session} {given : Bool} {m n : Nat} {op : Operation}

/-! ## All listeners in one operation -/

/-- The listeners that subscribe in an operation. -/
def newcomers (s : Session) : Operation → List Listener
  | .subscribe => if s.lifecycle.destroyed then [] else [Listener.fresh]
  | _ => []

lemma length_listeners_prepared (s : Session) (op : Operation) :
    (s.prepared op).listeners.all.length =
      s.listeners.all.length + (s.newcomers op).length := by
  rcases ho : op.isForListeners with _ | _
  · have hprepared := prepared_withListeners ho s s.listeners
    have hself : s.withListeners s.listeners = s := rfl
    rw [hself] at hprepared
    have hnone : s.newcomers op = [] := by
      cases op <;> first | rfl | simp [Operation.isForListeners] at ho
    rw [hprepared, hnone]
    rfl
  · cases op with
    | changeStatus change => simp [prepared, moved, announced, Listeners.broadcast, newcomers]
    | subscribe =>
      have hstep : (s.prepared .subscribe).listeners = s.subscribe.1.listeners := rfl
      rw [hstep, subscribe, newcomers]
      split <;> simp [Listeners.subscribe]
    | unsubscribe k => simp [prepared, moved, unsubscribe_eq_modify, newcomers]
    | listen k =>
      have hstep : (s.prepared (.listen k)).listeners = (s.listeners.receive k).1 := rfl
      simp [hstep, receive_eq_modify, newcomers]
    | dropListener k =>
      have hstep : (s.prepared (.dropListener k)).listeners = (s.listeners.dropReceiver k).1 := rfl
      simp [hstep, dropReceiver_eq_modify, newcomers]
    | _ => simp [Operation.isForListeners] at ho

/-- Who comes to listen in an operation comes last. -/
lemma getElem?_listeners_prepared_of_le (hn : s.listeners.all.length ≤ n) (op : Operation) :
    (s.prepared op).listeners.all[n]? = (s.newcomers op)[n - s.listeners.all.length]? := by
  have hlength := length_listeners_prepared s op
  rcases hnew : s.newcomers op with _ | ⟨l, more⟩
  · rw [hnew] at hlength
    rw [List.getElem?_nil, List.getElem?_eq_none_iff, hlength]
    exact hn
  · cases op with
    | subscribe =>
      have hstep : (s.prepared .subscribe).listeners = s.subscribe.1.listeners := rfl
      rw [← hnew, hstep, subscribe, newcomers]
      split
      · next hd => simp [newcomers, hd] at hnew
      · simp only [Listeners.subscribe]
        rw [List.getElem?_append_right hn]
    | _ => simp [newcomers] at hnew

/-! ## A listener that never stopped reading -/

/-- A session and one that is the same but for one listener, which still reads there and is on the
register if it is here. -/
structure DiffersAt (m : Nat) (s t : Session) : Prop where
  /-- Everything but the listeners is the same. -/
  rest : t = s.withListeners t.listeners
  /-- There are as many listeners. -/
  length : t.listeners.all.length = s.listeners.all.length
  /-- The others are the same. -/
  others : ∀ i, i ≠ m → t.listeners.all[i]? = s.listeners.all[i]?
  /-- This one still reads there. -/
  reading : ∀ r ∈ t.listeners.all[m]?, r.receiverHeld = true
  /-- It is on the register if it is here. -/
  kept : ∀ l ∈ s.listeners.all[m]?, ∀ r ∈ t.listeners.all[m]?,
    l.registered = true → r.registered = true

/-- Whether a listener stops reading in an operation. -/
def Operation.silences (m : Nat) : Operation → Bool
  | .dropListener k => k == m
  | _ => false

lemma differsAt_fresh (context : String) (given : Bool) (m : Nat) :
    (fresh context given).DiffersAt m (fresh context given) where
  rest := rfl
  length := rfl
  others _ _ := rfl
  reading := by simp [fresh, Listeners.empty]
  kept := by simp [fresh, Listeners.empty]

lemma DiffersAt.lifecycle (h : s.DiffersAt m t) : t.lifecycle = s.lifecycle := by
  rw [h.rest]
  rfl

lemma DiffersAt.isDestroyed (h : s.DiffersAt m t) : t.isDestroyed = s.isDestroyed := by
  rw [h.rest]
  rfl

/-- What an operation does to everything but the listeners does not depend on them. -/
lemma rest_prepared (s : Session) (ls : Listeners) (op : Operation) :
    (s.withListeners ls).prepared op =
      (s.prepared op).withListeners ((s.withListeners ls).prepared op).listeners := by
  rcases ho : op.isForListeners with _ | _
  · rw [prepared_withListeners ho]
    rfl
  · cases op with
    | subscribe =>
      have hlife : (s.withListeners ls).lifecycle = s.lifecycle := rfl
      have hstep : ∀ u : Session, u.prepared .subscribe = u.subscribe.1 := fun _ => rfl
      simp only [hstep, subscribe, hlife]
      split <;> rfl
    | changeStatus | unsubscribe | listen | dropListener => rfl
    | _ => simp [Operation.isForListeners] at ho

lemma receiverHeld_attend (hop : op.silences n = false) (l : Listener) :
    (attend op n l).receiverHeld = l.receiverHeld := by
  cases op with
  | changeStatus change =>
    simp only [attend, Listener.hear]
    repeat' split
    all_goals rfl
  | unsubscribe k =>
    simp only [attend]
    split <;> rfl
  | listen k =>
    simp only [attend]
    split <;> rfl
  | dropListener k =>
    have hk : k ≠ n := by simpa [Operation.silences] using hop
    simp [attend, hk]
  | _ => rfl

lemma registered_of_attend {l : Listener} (hl : (attend op n l).registered = true) :
    l.registered = true := by
  cases op with
  | changeStatus change =>
    rcases hnot : l.registered with _ | _
    · simp [attend, Listener.hear, hnot] at hl
    · rfl
  | unsubscribe k =>
    simp only [attend] at hl
    split at hl
    · simp [Listener.forget] at hl
    · exact hl
  | listen k =>
    simp only [attend] at hl
    split at hl <;> exact hl
  | dropListener k =>
    simp only [attend] at hl
    split at hl <;> exact hl
  | _ => exact hl

/-- A listener that reads stays on the register longer than one that does not. -/
lemma registered_attend_of_le {l r : Listener} (hr : r.receiverHeld = true)
    (hle : l.registered = true → r.registered = true) (op : Operation)
    (hl : (attend op n l).registered = true) : (attend op n r).registered = true := by
  have hreg := hle (registered_of_attend hl)
  cases op with
  | changeStatus change => simp [attend, Listener.hear, hreg, hr]
  | unsubscribe k =>
    simp only [attend] at hl ⊢
    split at hl
    · simp [Listener.forget] at hl
    · next hk => simpa [hk] using hreg
  | listen k =>
    simp only [attend]
    split <;> exact hreg
  | dropListener k =>
    simp only [attend]
    split <;> exact hreg
  | _ => exact hreg

lemma DiffersAt.newcomers (h : s.DiffersAt m t) (op : Operation) :
    t.newcomers op = s.newcomers op := by
  cases op with
  | subscribe => simp only [Session.newcomers, h.lifecycle]
  | _ => rfl

lemma eq_fresh_of_mem_newcomers {l : Listener} (hl : l ∈ s.newcomers op) :
    l = Listener.fresh := by
  cases op with
  | subscribe =>
    simp only [newcomers] at hl
    split at hl
    · simp at hl
    · simpa using hl
  | _ => simp [newcomers] at hl

/-- Who was not there before an operation is the same on both sides. -/
lemma DiffersAt.getElem?_prepared_of_le (h : s.DiffersAt m t)
    (hn : s.listeners.all.length ≤ n) (op : Operation) :
    (t.prepared op).listeners.all[n]? = (s.prepared op).listeners.all[n]? := by
  rw [getElem?_listeners_prepared_of_le hn, getElem?_listeners_prepared_of_le (h.length ▸ hn),
    h.newcomers, h.length]

/-- A listener on either side is new, or what the operation makes of the one before. -/
lemma DiffersAt.prepared_cases (h : s.DiffersAt m t) {r : Listener}
    (hr : (t.prepared op).listeners.all[n]? = some r) :
    (r = Listener.fresh ∧ (s.prepared op).listeners.all[n]? = some Listener.fresh) ∨
      ∃ l₀ r₀, s.listeners.all[n]? = some l₀ ∧ t.listeners.all[n]? = some r₀ ∧
        (s.prepared op).listeners.all[n]? = some (attend op n l₀) ∧ r = attend op n r₀ := by
  rcases hs : s.listeners.all[n]? with _ | l₀
  · have hle : s.listeners.all.length ≤ n := List.getElem?_eq_none_iff.1 hs
    rw [h.getElem?_prepared_of_le hle] at hr
    have hfresh : r = Listener.fresh := by
      rw [getElem?_listeners_prepared_of_le hle] at hr
      exact eq_fresh_of_mem_newcomers (List.mem_of_getElem? hr)
    exact Or.inl ⟨hfresh, hfresh ▸ hr⟩
  · have hlt : n < t.listeners.all.length := by
      rw [h.length]
      exact (List.getElem?_eq_some_iff.1 hs).1
    have ht := List.getElem?_eq_getElem hlt
    rw [getElem?_listeners_prepared ht, Option.some.injEq] at hr
    exact Or.inr ⟨l₀, _, rfl, ht, getElem?_listeners_prepared hs op, hr.symm⟩

lemma DiffersAt.prepared (h : s.DiffersAt m t) (hop : op.silences m = false) :
    (s.prepared op).DiffersAt m (t.prepared op) where
  rest := by
    conv_lhs => rw [h.rest, rest_prepared, ← h.rest]
  length := by
    rw [length_listeners_prepared, length_listeners_prepared, h.length, h.newcomers]
  others := by
    intro i hi
    rcases hold : s.listeners.all[i]? with _ | l
    · exact h.getElem?_prepared_of_le (List.getElem?_eq_none_iff.1 hold) op
    · rw [getElem?_listeners_prepared hold,
        getElem?_listeners_prepared ((h.others i hi).trans hold)]
  reading := by
    intro r hr
    rcases h.prepared_cases hr with ⟨rfl, _⟩ | ⟨l₀, r₀, _, hr₀, _, rfl⟩
    · rfl
    · rw [receiverHeld_attend hop]
      exact h.reading r₀ hr₀
  kept := by
    intro l hl r hr
    rcases h.prepared_cases hr with ⟨rfl, _⟩ | ⟨l₀, r₀, hl₀, hr₀, hl', rfl⟩
    · exact fun _ => rfl
    · obtain rfl : attend op m l₀ = l := Option.some.inj (hl'.symm.trans hl)
      exact registered_attend_of_le (h.reading r₀ hr₀) (h.kept l₀ hl₀ r₀ hr₀) op

lemma DiffersAt.concluded (h : s.DiffersAt m t) : s.concluded.DiffersAt m t.concluded where
  rest := by
    conv_lhs => rw [h.rest]
    conv_rhs => rw [h.rest]
    rfl
  length := by simp [Session.concluded, dismantle, Listeners.clear, h.length]
  others := by
    intro i hi
    simp [Session.concluded, dismantle, Listeners.clear, h.others i hi]
  reading := by
    intro r hr
    simp only [Session.concluded, dismantle, Listeners.clear, List.getElem?_map, Option.mem_def,
      Option.map_eq_some_iff] at hr
    obtain ⟨r₀, hr₀, rfl⟩ := hr
    exact h.reading r₀ hr₀
  kept := by
    intro l hl
    simp only [Session.concluded, dismantle, Listeners.clear, List.getElem?_map, Option.mem_def,
      Option.map_eq_some_iff] at hl
    obtain ⟨l₀, _, rfl⟩ := hl
    simp [Listener.forget]

/-! ## When the session ends -/

/-- A session and one in which a listener never stopped reading.  If the listener was found out
here, then the session has a use without it. -/
structure Unnoticed (m : Nat) (s t : Session) : Prop extends DiffersAt m s t where
  /-- Nobody waits for the listener to leave. -/
  unmissed : ∀ l ∈ s.listeners.all[m]?, ∀ r ∈ t.listeners.all[m]?,
    l.registered = false → r.registered = true → s.lifecycle.isAbandoned = false

lemma unnoticed_fresh (context : String) (given : Bool) (m : Nat) :
    (fresh context given).Unnoticed m (fresh context given) where
  toDiffersAt := differsAt_fresh context given m
  unmissed := by simp [fresh, Listeners.empty]

/-- An operation after which a session does not ask itself does not take its use away. -/
lemma isAbandoned_of_not_reviews (hr : s.reviews op = false)
    (ha : (s.prepared op).lifecycle.isAbandoned = true) : s.lifecycle.isAbandoned = true := by
  rw [lifecycle_prepared, activity_of_not_reviews hr] at ha
  rcases presence_of_not_reviews hr with hp | hp
  · rwa [hp] at ha
  · simp [hp, Lifecycle.isAbandoned] at ha

/-- Both sides ask themselves in the same operations, apart from one that does not matter. -/
lemma Unnoticed.reviews_eq (h : s.Unnoticed m t) (op : Operation)
    (ha : (s.prepared op).lifecycle.isAbandoned = true) : t.reviews op = s.reviews op := by
  cases op with
  | unsubscribe k =>
    have hsame : (s.prepared (.unsubscribe k)).lifecycle = s.lifecycle := rfl
    rw [hsame] at ha
    rw [reviews, reviews, Bool.eq_iff_iff, isRegistered_eq_true_iff, isRegistered_eq_true_iff]
    by_cases hk : k = m
    · subst hk
      constructor
      · rintro ⟨r, hr, hreg⟩
        have hlt : k < s.listeners.all.length := by
          rw [← h.length]
          exact (List.getElem?_eq_some_iff.1 hr).1
        have hl := List.getElem?_eq_getElem hlt
        refine ⟨_, hl, ?_⟩
        -- If the listener had been found out, the session would have a use without it.
        by_contra hnot
        have hused := h.unmissed _ hl r hr (by simpa using hnot) hreg
        simp [hused] at ha
      · rintro ⟨l, hl, hreg⟩
        have hlt : k < t.listeners.all.length := by
          rw [h.length]
          exact (List.getElem?_eq_some_iff.1 hl).1
        have hr := List.getElem?_eq_getElem hlt
        exact ⟨_, hr, h.kept l hl _ hr hreg⟩
    · rw [h.others k hk]
  | _ =>
    rw [h.rest]
    rfl

lemma Unnoticed.isDestroyed_step (h : s.Unnoticed m t) (hs : s.IsOpen given)
    (ht : t.IsOpen given) (op : Operation) :
    (t.step op).isDestroyed = (s.step op).isDestroyed := by
  have hlife : (t.prepared op).lifecycle = (s.prepared op).lifecycle := by
    rw [h.rest, rest_prepared]
    rfl
  rw [Bool.eq_iff_iff, hs.isDestroyed_step_iff, ht.isDestroyed_step_iff, hlife]
  refine or_congr_right (and_congr_left fun ha => ?_)
  rw [h.reviews_eq op ha]

/-- Once a session has ended nobody is missed. -/
lemma Unnoticed.of_isClosed (h : s.DiffersAt m t) (ht : t.IsClosed given) :
    s.Unnoticed m t where
  toDiffersAt := h
  unmissed := by
    intro _ _ r hr _ hreg
    have hgone := ht.unheard r (List.mem_of_getElem? hr)
    simp [hgone] at hreg

/-- A session asks itself whenever someone goes off the register. -/
lemma reviews_of_forgotten {l : Listener} (hn : s.listeners.all[n]? = some l)
    (hl : l.registered = true) (hnot : (attend op n l).registered = false) :
    s.reviews op = true := by
  cases op with
  | changeStatus change => rfl
  | unsubscribe k =>
    by_cases hk : k = n
    · subst hk
      rw [reviews, isRegistered_eq_true_iff]
      exact ⟨l, hn, hl⟩
    · simp [attend, hk, hl] at hnot
  | listen k =>
    simp only [attend] at hnot
    split at hnot <;> simp [hl] at hnot
  | dropListener k =>
    simp only [attend] at hnot
    split at hnot <;> simp [hl] at hnot
  | _ => simp [attend, hl] at hnot

/-- An operation with which a session goes on keeps both sides related. -/
lemma Unnoticed.prepared (h : s.Unnoticed m t) (hop : op.silences m = false)
    (hgoes : s.reviews op = true → (s.prepared op).lifecycle.isAbandoned = false) :
    (s.prepared op).Unnoticed m (t.prepared op) where
  toDiffersAt := h.toDiffersAt.prepared hop
  unmissed := by
    intro l hl r hr hnot hreg
    rcases h.prepared_cases hr with ⟨_, hl'⟩ | ⟨l₀, r₀, hl₀, hr₀, hl', rfl⟩
    · obtain rfl : Listener.fresh = l := Option.some.inj (hl'.symm.trans hl)
      simp [Listener.fresh] at hnot
    · obtain rfl : attend op m l₀ = l := Option.some.inj (hl'.symm.trans hl)
      rcases hrev : s.reviews op with _ | _
      · -- The listener is off the register for the reason that it was before.
        by_contra hused
        have ha := isAbandoned_of_not_reviews hrev (by simpa using hused)
        rcases hl₁ : l₀.registered with _ | _
        · have hstill := h.unmissed l₀ hl₀ r₀ hr₀ hl₁ (registered_of_attend hreg)
          simp [hstill] at ha
        · simp [reviews_of_forgotten hl₀ hl₁ hnot] at hrev
      · exact hgoes hrev

lemma Unnoticed.step (h : s.Unnoticed m t) (hs : s.IsSound given) (ht : t.IsSound given)
    (hop : op.silences m = false) : (s.step op).Unnoticed m (t.step op) := by
  rcases hd : s.isDestroyed with _ | _
  · have hopen := hs.isOpen hd
    have hopen' := ht.isOpen (h.isDestroyed.trans hd)
    have hends := h.isDestroyed_step hopen hopen' op
    have hstep := hopen.step_eq_prepared op
    have hstep' := hopen'.step_eq_prepared op
    rw [hends] at hstep'
    rcases he : (s.step op).isDestroyed with _ | _
    · rw [he, if_neg (by decide)] at hstep hstep'
      rw [hstep, hstep']
      refine h.prepared hop fun hrev => ?_
      by_contra hused
      rw [(hopen.isDestroyed_step_iff op).2 (Or.inr ⟨hrev, by simpa using hused⟩)] at he
      exact absurd he (by decide)
    · have hclosed := (ht.step op).isClosed (hends.trans he)
      rw [he, if_pos rfl] at hstep hstep'
      rw [hstep'] at hclosed
      rw [hstep, hstep']
      exact .of_isClosed (h.toDiffersAt.prepared hop).concluded hclosed
  · have hclosed := hs.isClosed hd
    have hclosed' := ht.isClosed (h.isDestroyed.trans hd)
    rcases hq : op.isQuiet with _ | _
    · rw [hclosed.step_eq_self hq, hclosed'.step_eq_self hq]
      exact h
    · have hnext := hclosed'.step op
      rw [← prepared_of_isQuiet hq] at hnext
      rw [← prepared_of_isQuiet hq, ← prepared_of_isQuiet hq]
      exact .of_isClosed (h.toDiffersAt.prepared hop) hnext

/-- Nothing else changes when a listener stops reading. -/
lemma Unnoticed.step_dropListener (h : s.Unnoticed m t) :
    (s.step (.dropListener m)).Unnoticed m t := by
  have hstep : s.step (.dropListener m) =
      s.withListeners ⟨s.listeners.all.modify m fun l => { l with receiverHeld := false }⟩ := by
    rw [← dropReceiver_eq_modify]
    rfl
  have hat : ∀ l' ∈ (s.step (.dropListener m)).listeners.all[m]?,
      ∃ l ∈ s.listeners.all[m]?, l'.registered = l.registered := by
    intro l' hl'
    simp only [hstep, withListeners, List.getElem?_modify, if_true, Option.mem_def,
      Option.map_eq_map, Option.map_eq_some_iff] at hl'
    obtain ⟨l, hl, rfl⟩ := hl'
    exact ⟨l, hl, rfl⟩
  refine ⟨⟨?_, ?_, ?_, h.reading, ?_⟩, ?_⟩
  · rw [h.rest, hstep]
    rfl
  · simp [hstep, withListeners, h.length]
  · intro i hi
    simp [hstep, withListeners, hi.symm, h.others i hi]
  · intro l' hl' r hr
    obtain ⟨l, hl, hsame⟩ := hat l' hl'
    rw [hsame]
    exact h.kept l hl r hr
  · intro l' hl' r hr
    obtain ⟨l, hl, hsame⟩ := hat l' hl'
    rw [hsame, hstep]
    exact h.unmissed l hl r hr

/-! ## Whole runs -/

lemma heardBy_congr (hn : t.listeners.all[n]? = s.listeners.all[n]?) (op : Operation) :
    heardBy n t op = heardBy n s op := by
  cases op with
  | listen k =>
    by_cases hk : k = n
    · subst hk
      rcases hs : s.listeners.all[k]? with _ | l
      · simp [heardBy, perform, listen, Listeners.receive, hs, hn]
      · rw [heardBy_listen hs, heardBy_listen (hn.trans hs)]
    · rw [heardBy_listen_of_ne hk, heardBy_listen_of_ne hk]
  | _ => rfl

/-- A listener hears the same whether or not another one stops reading. -/
lemma Unnoticed.run (h : s.Unnoticed m t) (hs : s.IsSound given) (ht : t.IsSound given)
    (hn : n ≠ m) (ops : List Operation) :
    heardIn n t (ops.filter (!·.silences m)) = heardIn n s ops ∧
      (s.run ops).Unnoticed m (t.run (ops.filter (!·.silences m))) := by
  induction ops generalizing s t with
  | nil => exact ⟨rfl, h⟩
  | cons op ops ih =>
    rcases hop : op.silences m with _ | _
    · obtain ⟨hheard, hrun⟩ := ih (h.step hs ht hop) (hs.step op) (ht.step op)
      rw [List.filter_cons_of_pos (by simp [hop]), heardIn, heardIn, hheard,
        heardBy_congr (h.others n hn)]
      exact ⟨rfl, hrun⟩
    · -- Here the listener stops reading, and there it does not.
      obtain rfl : op = .dropListener m := by
        cases op with
        | dropListener k => simpa [Operation.silences] using hop
        | _ => simp [Operation.silences] at hop
      obtain ⟨hheard, hrun⟩ := ih h.step_dropListener (hs.step (.dropListener m)) ht
      rw [List.filter_cons_of_neg (by simp [hop]), heardIn, hheard]
      exact ⟨rfl, hrun⟩

/-- **Every listener is told of the changes of its time, in order.**  A listener that subscribes is
told of exactly those changes that the session takes note of until it leaves or stops reading, and
as long as it does neither its queue is closed just if the session has ended.  Within one change of
status the observers get the marker of a final status first, then the listeners get the change, and
the session ends after that, if at all.  Whether another listener stops reading makes no difference
to it. -/
theorem run_announcements (context : String) (given : Bool) (before : List Operation) :
    let first := fresh context given
    let s := first.run before
    (∀ n after, s.subscribe.2 = .ok n →
      told n s.subscribe.1 after =
        s.subscribe.1.reportedIn (after.takeWhile (!·.dismisses n)) ∧
      (after.all (!·.dismisses n) = true →
        (s.subscribe.1.run after).listeners.isRegistered n =
          !(s.subscribe.1.run after).isDestroyed)) ∧
    (s.isDestroyed = false → ∀ n l change, s.listeners.all[n]? = some l → l.isTold = true →
      (s.stages change).getLast? = some (s.changeStatus change).1 ∧
      ∀ t ∈ s.stages change, IsTimely s change n l t) ∧
    (∀ m n, m ≠ n →
      heardIn n first (before.filter (!·.silences m)) = heardIn n first before ∧
      (first.run (before.filter (!·.silences m))).listeners.all[n]? = s.listeners.all[n]?) := by
  intro first s
  have hfirst : first.IsSound given := Or.inl (isOpen_fresh context given)
  have hs : s.IsSound given := hfirst.run before
  refine ⟨?_, ?_, ?_⟩
  · intro n after hok
    have hd := hs.isDestroyed_subscribe hok
    have hsub := hs.step .subscribe
    have hsame : s.step .subscribe = s.subscribe.1 := rfl
    rw [hsame] at hsub
    have hlast := getElem?_of_subscribe hok
    refine ⟨?_, fun hstay => ?_⟩
    · rw [hsub.told_eq hlast]
      rfl
    · exact hsub.isRegistered_run hlast (by rw [hd]; rfl) hstay
  · intro hd n l change hn ht
    have hopen := hs.isOpen hd
    exact ⟨getLast?_stages hopen.live change, hopen.isTimely_stages hn ht change⟩
  · intro m n hmn
    have hrun := (unnoticed_fresh context given m).run hfirst hfirst hmn.symm before
    exact ⟨hrun.1, hrun.2.others n hmn.symm⟩

/-- The change that ends a session is the last that its listeners are told of. -/
example :
    told 0 ((fresh "work").run [.subscribe])
      [.subscribe, .changeStatus ⟨"1", .new, .running, "work"⟩, .listen 0, .dropListener 1,
        .changeStatus ⟨"1", .running, .done, "work"⟩,
        .changeStatus ⟨"2", .new, .running, "work"⟩] =
      [⟨"1", .new, .running, "work"⟩, ⟨"1", .running, .done, "work"⟩] := by
  decide

end SharedTerminal.Session
