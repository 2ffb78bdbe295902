import SharedTerminal.Proofs.Session.Announcement

/-!
# What keeps a session

A session is kept by its driver, or by a command that runs; until its first driver comes nothing
keeps it but that nobody has left yet.  `lifecycle_prepared` says what an operation makes of that.
A driver keeps its seat as long as the session knows of a driver (`role_touch_of_driver`), and
everyone else theirs in the operations that spare them (`role_touch_of_spares`).
-/

namespace SharedTerminal.Session

variable {s : Session} {given : Bool} {k n : Nat} {seat : Seat} {l : Listener} {op : Operation}

/-! ## The lifecycle in one operation -/

/-- Whether there is a driver after an operation. -/
def presence (s : Session) : Operation → Presence
  | .attachDriver _ startup =>
    if s.lifecycle.driver = .never && !startup.outcome.isOk then .never else .attached
  | .detachDriver name =>
    if s.seats.any (Seat.isNamed .driver name) then Lifecycle.leave s.lifecycle.driver
    else s.lifecycle.driver
  | .write _ =>
    if s.loses .driver then Lifecycle.leave s.lifecycle.driver else s.lifecycle.driver
  | _ => s.lifecycle.driver

/-- Whether a command runs after an operation. -/
def activity (s : Session) (op : Operation) : Bool :=
  op.change?.elim s.lifecycle.active fun change => !change.isFinal

lemma lifecycle_prepared (s : Session) (op : Operation) :
    (s.prepared op).lifecycle = ⟨s.activity op, s.presence op, s.lifecycle.destroyed⟩ := by
  rcases hq : op.isQuiet with _ | _
  · cases op with
    | attachDriver c startup =>
      simp only [prepared, moved, activity, presence, Operation.change?, Option.elim_none]
      rcases hp : s.lifecycle.driver with _ | _ | _
      · rcases ho : startup.outcome with e | u
        · simp [Except.isOk, Except.toBool, ← hp]
        · simp [started, driven, seatDriver, Except.isOk, Except.toBool]
      · -- Who is demoted changes nothing.
        have hsame : s.lifecycle = ⟨s.lifecycle.active, .attached, s.lifecycle.destroyed⟩ := by
          rw [← hp]
        simpa [seatObserver] using hsame
      · simp [driven, seatDriver]
    | detachDriver name =>
      simp only [prepared, moved, activity, presence, Operation.change?, Option.elim_none]
      split <;> rfl
    | detachObserver name =>
      simp only [prepared, moved, activity, presence, Operation.change?, Option.elim_none]
      split <;> rfl
    | write chunk =>
      simp only [prepared, moved, activity, presence, Operation.change?, Option.elim_none]
      split <;> rfl
    | subscribe =>
      simp only [prepared, moved, step, perform, subscribe, activity, presence, Operation.change?,
        Option.elim_none]
      split <;> rfl
    | attachObserver | changeStatus | unsubscribe | shutdown => rfl
    | _ => simp [Operation.isQuiet] at hq
  · rw [prepared_of_isQuiet hq, (alike_step hq s).lifecycle]
    cases op <;> first | rfl | simp [Operation.isQuiet] at hq

/-- An operation with which a session goes on does what it is for. -/
lemma IsOpen.step_eq_of_live (h : s.IsOpen given) (hlive : (s.step op).isDestroyed = false) :
    s.step op = s.prepared op := by
  rw [h.step_eq_prepared op, hlive]
  rfl

lemma IsOpen.lifecycle_step (h : s.IsOpen given) (hlive : (s.step op).isDestroyed = false) :
    (s.step op).lifecycle = ⟨s.activity op, s.presence op, false⟩ := by
  rw [h.step_eq_of_live hlive, lifecycle_prepared, h.live]

lemma presence_of_never (hd : s.presence op = .never) : s.lifecycle.driver = .never := by
  cases op with
  | attachDriver c startup =>
    simp only [presence] at hd
    split at hd
    · next hn => simpa using And.left (by simpa using hn)
    · simp at hd
  | detachDriver name =>
    simp only [presence] at hd
    split at hd
    · rcases hp : s.lifecycle.driver with _ | _ | _ <;> simp_all [Lifecycle.leave]
    · exact hd
  | write chunk =>
    simp only [presence] at hd
    split at hd
    · rcases hp : s.lifecycle.driver with _ | _ | _ <;> simp_all [Lifecycle.leave]
    · exact hd
  | _ => exact hd

/-- Only who asks to drive becomes the driver. -/
lemma presence_of_attached (hd : s.presence op = .attached) :
    s.lifecycle.driver = .attached ∨ ∃ c startup, op = .attachDriver c startup := by
  cases op with
  | attachDriver c startup => exact Or.inr ⟨c, startup, rfl⟩
  | detachDriver name =>
    simp only [presence] at hd
    split at hd
    · rcases hp : s.lifecycle.driver with _ | _ | _ <;> simp_all [Lifecycle.leave]
    · exact Or.inl hd
  | write chunk =>
    simp only [presence] at hd
    split at hd
    · rcases hp : s.lifecycle.driver with _ | _ | _ <;> simp_all [Lifecycle.leave]
    · exact Or.inl hd
  | _ => exact Or.inl hd

lemma activity_of_not_reviews (hr : s.reviews op = false) :
    s.activity op = s.lifecycle.active := by
  cases op <;> first | rfl | simp [reviews] at hr

/-- Who leaves makes the session ask itself whether it goes on. -/
lemma presence_of_not_reviews (hr : s.reviews op = false) :
    s.presence op = s.lifecycle.driver ∨ s.presence op = .attached := by
  cases op with
  | attachDriver c startup => exact Or.inr (by simpa [presence, reviews] using hr)
  | detachDriver name =>
    simp only [reviews] at hr
    simp [presence, hr]
  | write chunk =>
    simp only [reviews, Bool.or_eq_false_iff] at hr
    simp [presence, hr.1]
  | _ => exact Or.inl rfl

/-! ## Keeping one's place -/

lemma isNamed_of_role_ne {role : Role} (hr : seat.role ≠ role) (name : String) :
    seat.isNamed role name = false := by
  simp [Seat.isNamed, hr]

lemma isNamed_of_id_ne {name : String} (hid : seat.channel.id ≠ name) (role : Role) :
    seat.isNamed role name = false := by
  simp [Seat.isNamed, hid]

lemma getElem?_step_of_live (h : s.IsOpen given) (hlive : (s.step op).isDestroyed = false)
    (hk : s.seats[k]? = some seat) : (s.step op).seats[k]? = some (s.touch op k seat) := by
  rw [getElem?_step h hk op, hlive]
  rfl

/-- A driver keeps its seat as long as the session knows of a driver. -/
lemma role_touch_of_driver (hk : s.seats[k]? = some seat)
    (hrole : seat.role = .driver) (hd : s.presence op = .attached) :
    (s.touch op k seat).role = .driver := by
  have hother : ∀ name, seat.isNamed .observer name = false :=
    isNamed_of_role_ne (by simp [hrole])
  cases op with
  | attachDriver c startup => simp [touch, hother, hrole]
  | attachObserver c => simp [touch, hother, hrole]
  | detachDriver name =>
    simp only [presence] at hd
    rcases hn : s.seats.any (Seat.isNamed .driver name) with _ | _
    · simp [touch, isNamed_eq_false hk hn, hrole]
    · rw [hn, if_pos rfl] at hd
      rcases hp : s.lifecycle.driver with _ | _ | _ <;> simp [hp, Lifecycle.leave] at hd
  | detachObserver name => simp [touch, hother, hrole]
  | write chunk =>
    simp only [presence] at hd
    rcases hl : s.loses .driver with _ | _
    · have hroom : seat.channel.accepts = true := by
        rw [loses, List.any_eq_false] at hl
        simpa [Seat.isLost, hrole] using hl seat (List.mem_of_getElem? hk)
      simp [touch, Seat.offer_role, hroom, hrole]
    · rw [hl, if_pos rfl] at hd
      rcases hp : s.lifecycle.driver with _ | _ | _ <;> simp [hp, Lifecycle.leave] at hd
  | changeStatus change =>
    simp only [touch, Seat.offerObserver, hrole]
    split <;> simp [hrole]
  | receive j max =>
    simp only [touch]
    split <;> exact hrole
  | dropReceiver j =>
    simp only [touch]
    split <;> exact hrole
  | _ => exact hrole

/-- Whether an operation lets go no observer and no listener but possibly the one with a name. -/
def Operation.spares (name : String) : Operation → Bool
  | .attachDriver c _ | .attachObserver c => c.id != name
  | .subscribe => true
  | op => op.isQuiet

lemma role_touch_of_spares (hop : op.spares seat.channel.id = true) (s : Session) (k : Nat) :
    (s.touch op k seat).role = seat.role := by
  cases op with
  | attachDriver c startup =>
    have hid : c.id ≠ seat.channel.id := by simpa [Operation.spares] using hop
    simp [touch, isNamed_of_id_ne hid.symm]
  | attachObserver c =>
    have hid : c.id ≠ seat.channel.id := by simpa [Operation.spares] using hop
    simp [touch, isNamed_of_id_ne hid.symm]
  | receive j max =>
    simp only [touch]
    split <;> rfl
  | dropReceiver j =>
    simp only [touch]
    split <;> rfl
  | _ => first | rfl | simp [Operation.spares, Operation.isQuiet] at hop

lemma registered_attend_of_spares {name : String} (hop : op.spares name = true) (n : Nat)
    (l : Listener) : (attend op n l).registered = l.registered := by
  cases op with
  | listen m =>
    simp only [attend]
    split <;> rfl
  | dropListener m =>
    simp only [attend]
    split <;> rfl
  | _ => first | rfl | simp [Operation.spares, Operation.isQuiet] at hop

end SharedTerminal.Session
