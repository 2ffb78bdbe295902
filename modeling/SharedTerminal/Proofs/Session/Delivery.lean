import SharedTerminal.Proofs.Session.Touch

/-!
# Delivery

A session produces one sequence of items: the chunks that are written to it, and a completion
marker for every final status.  A channel gets its part of that sequence from the moment it is
attached until it parts: until an item finds no room or no consumer, or it is detached, or the
session ends.

The consumer of a channel takes chunks out while others come in, so what a channel got is what was
taken so far followed by what still waits (`accepted`).  One operation adds its item to that, if
there is one for the role of the channel and room for it (`taken_append_touch`); the main statement
is `isDelivered_from_attachment`.
-/

namespace SharedTerminal.Session

variable {s : Session} {given : Bool} {k : Nat} {seat : Seat} {op : Operation}

/-! ## Items -/

/-- What a session produces for its channels. -/
inductive Item where
  /-- A chunk of output. -/
  | output (chunk : Bytes)
  /-- The marker of a final status. -/
  | completion (status : Task.Status)
deriving DecidableEq, Repr

namespace Item

/-- The bytes of an item. -/
def bytes : Item → Bytes
  | output chunk => chunk
  | completion status => utf8 status.completionMarker

/-- Whether an item is meant for the channels with a role. -/
def reaches : Role → Item → Bool
  | .driver, output _ => true
  | .observer, _ => true
  | _, _ => false

@[simp] lemma reaches_released (item : Item) : item.reaches .released = false := by
  cases item <;> rfl

end Item

/-- The item that an operation is about. -/
def Operation.item? : Operation → Option Item
  | .write chunk => some (.output chunk)
  | .changeStatus change => if change.isFinal then some (.completion change.after) else none
  | _ => none

/-- What a session produces in an operation.  Once it has ended it produces nothing. -/
def produced (s : Session) (op : Operation) : Option Item :=
  if s.isDestroyed then none else op.item?

/-- What a session produces in a list of operations, in order. -/
def production (s : Session) : List Operation → List Item
  | [] => []
  | op :: ops => (s.produced op).toList ++ production (s.step op) ops

/-- What a list of items comes to for a role. -/
def addressed (role : Role) (items : List Item) : List Bytes :=
  (items.filter (Item.reaches role)).map Item.bytes

lemma addressed_append (role : Role) (items more : List Item) :
    addressed role (items ++ more) = addressed role items ++ addressed role more := by
  simp [addressed]

/-! ## What a channel gets -/

/-- The chunks that the consumer on a seat is given in an operation. -/
def taken (k : Nat) (s : Session) (op : Operation) : List Bytes :=
  match op, (s.perform op).2 with
  | .receive j _, .received (some found) => if j = k then found.chunks else []
  | _, _ => []

/-- The chunks that the consumer on a seat is given in a list of operations. -/
def takenIn (k : Nat) (s : Session) : List Operation → List Bytes
  | [] => []
  | op :: ops => taken k s op ++ takenIn k (s.step op) ops

lemma takenIn_append (k : Nat) (s : Session) (ops more : List Operation) :
    takenIn k s (ops ++ more) = takenIn k s ops ++ takenIn k (s.run ops) more := by
  induction ops generalizing s with
  | nil => rfl
  | cons op ops ih => simp [takenIn, ih]

/-- Whether an operation takes chunks out of a queue. -/
def Operation.takes : Operation → Bool
  | .receive .. => true
  | _ => false

lemma taken_of_not_takes (hop : op.takes = false) (k : Nat) (s : Session) :
    taken k s op = [] := by
  cases op with
  | receive j max => cases hop
  | _ => rfl

/-- The chunks that wait for the consumer on a seat. -/
def waiting (k : Nat) (s : Session) : List Bytes :=
  match s.seats[k]? with
  | some seat => seat.channel.queue
  | none => []

/-- Every chunk that the queue on a seat has taken in by the end of a list of operations: those
that were given to the consumer and those that wait for it. -/
def accepted (k : Nat) (s : Session) (ops : List Operation) : List Bytes :=
  takenIn k s ops ++ waiting k (s.run ops)

lemma accepted_nil (hk : s.seats[k]? = some seat) : accepted k s [] = seat.channel.queue := by
  simp [accepted, takenIn, waiting, hk]

lemma accepted_cons (k : Nat) (s : Session) (op : Operation) (ops : List Operation) :
    accepted k s (op :: ops) = taken k s op ++ accepted k (s.step op) ops := by
  simp [accepted, takenIn]

/-- An operation takes a channel in, for a role. -/
inductive Attaches (s : Session) : Operation → Channel → Role → Prop where
  /-- It asks to drive and drives. -/
  | driving {c : Channel} {startup : Startup} (h : (s.attachDriver c startup).2 = .ok .driving) :
      Attaches s (.attachDriver c startup) c .driver
  /-- It asks to drive and observes. -/
  | demoted {c : Channel} {startup : Startup} (h : (s.attachDriver c startup).2 = .ok .observing) :
      Attaches s (.attachDriver c startup) c .observer
  /-- It asks to observe. -/
  | observing {c : Channel} (h : (s.attachObserver c).2 = .ok ()) :
      Attaches s (.attachObserver c) c .observer

/-- The channel on a seat parts in an operation: it cannot take an item that is meant for it, or
it is detached. -/
def Parts (k : Nat) (s : Session) (op : Operation) : Prop :=
  ∃ seat, s.seats[k]? = some seat ∧
    ((∃ item, s.produced op = some item ∧ item.reaches seat.role = true ∧
        seat.channel.accepts = false) ∨
      (op = .detachDriver seat.channel.id ∧ seat.role = .driver) ∨
      (op = .detachObserver seat.channel.id ∧ seat.role = .observer))

/-- The channel on a seat, with a role and a queue at first, gets in a list of operations what the
session produces for that role until the channel parts, and nothing after that. -/
def IsDelivered (k : Nat) (role : Role) (queue : List Bytes) (s : Session)
    (ops : List Operation) : Prop :=
  ∃ during rest, ops = during ++ rest ∧
    (∀ pre op post, during = pre ++ op :: post → ¬ Parts k (s.run pre) op) ∧
    (∀ op post, rest = op :: post → Parts k (s.run during) op) ∧
    accepted k s ops = queue ++ addressed role (s.production during)

/-! ## The queue of one seat -/

lemma produced_of_live (h : s.isDestroyed = false) (op : Operation) :
    s.produced op = op.item? := by
  simp [produced, h]

lemma produced_of_destroyed (h : s.isDestroyed = true) (op : Operation) :
    s.produced op = none := by
  simp [produced, h]

/-- What comes out of a queue was in front of what stays in it. -/
lemma chunks_append_receive (c : Channel) (max : Option Nat) :
    (c.receive max).2.chunks ++ (c.receive max).1.queue = c.queue := by
  cases max with
  | none => simp [Channel.receive]
  | some n => simp [Channel.receive]

lemma taken_receive (hk : s.seats[k]? = some seat) (max : Option Nat) :
    taken k s (.receive k max) =
      if seat.channel.receiverHeld then (seat.channel.receive max).2.chunks else [] := by
  rcases hr : seat.channel.receiverHeld with _ | _
  · simp [taken, perform, receive, hk, hr]
  · simp [taken, perform, receive, hk, hr]

lemma taken_receive_all (k : Nat) (s : Session) :
    taken k s (.receive k none) = ((s.receive k none).2.map (·.chunks)).getD [] := by
  rcases hr : s.receive k none with ⟨next, _ | received⟩ <;> simp [taken, perform, hr]

lemma taken_receive_of_ne {j : Nat} (hj : j ≠ k) (max : Option Nat) :
    taken k s (.receive j max) = [] := by
  unfold taken
  split
  · next heq _ =>
    cases heq
    simp [hj]
  · rfl

/-- One operation adds to a queue its item, if it is meant for the role and there is room, and takes
out of it what the consumer was given. -/
lemma taken_append_touch (hk : s.seats[k]? = some seat) (op : Operation) :
    taken k s op ++ (s.touch op k seat).channel.queue =
      seat.channel.queue ++
        if seat.channel.accepts then addressed seat.role op.item?.toList else [] := by
  cases op with
  | attachDriver c startup =>
    simp only [taken, touch]
    split <;> simp [addressed, Operation.item?]
  | attachObserver c =>
    simp only [taken, touch]
    split <;> simp [addressed, Operation.item?]
  | detachDriver name =>
    simp only [taken, touch]
    split <;> simp [addressed, Operation.item?]
  | detachObserver name =>
    simp only [taken, touch]
    split <;> simp [addressed, Operation.item?]
  | write chunk =>
    simp only [taken, touch, List.nil_append]
    by_cases hr : seat.role = .released
    · simp [Seat.offer_of_released hr, hr, addressed, Operation.item?]
    · have hreach : (Item.output chunk).reaches seat.role = true := by
        cases hrole : seat.role <;> simp_all [Item.reaches]
      rw [Seat.offer_queue hr]
      split <;> simp [addressed, Operation.item?, hreach, Item.bytes]
  | changeStatus change =>
    -- Only a final status is an item, and only observers are offered its marker.
    simp only [taken, touch, List.nil_append]
    rcases hf : change.isFinal with _ | _
    · simp [addressed, Operation.item?, hf]
    · by_cases hr : seat.role = .observer
      · have hheld : seat.role ≠ .released := by simp [hr]
        have hreach : (Item.completion change.after).reaches .observer = true := rfl
        simp only [Seat.offerObserver, hr, if_true]
        rw [Seat.offer_queue hheld]
        split <;> simp [addressed, Operation.item?, hf, hreach, Item.bytes]
      · have hreach : (Item.completion change.after).reaches seat.role = false := by
          cases hrole : seat.role <;> simp_all [Item.reaches]
        simp [Seat.offerObserver, hr, addressed, Operation.item?, hf, hreach]
  | receive j max =>
    by_cases hj : j = k
    · subst hj
      rw [taken_receive hk]
      rcases hr : seat.channel.receiverHeld with _ | _
      · simp [touch, hr, addressed, Operation.item?]
      · simpa [touch, hr, addressed, Operation.item?] using chunks_append_receive seat.channel max
    · simp [taken_receive_of_ne hj, touch, hj, addressed, Operation.item?]
  | dropReceiver j =>
    simp only [taken, touch]
    split <;> simp [addressed, Operation.item?, Channel.dropReceiver]
  | _ => simp [taken, touch, addressed, Operation.item?]

/-! ## The role of one seat -/

/-- A channel that parts is let go. -/
lemma touch_role_of_parts (hlive : s.isDestroyed = false) (hk : s.seats[k]? = some seat)
    (hp : Parts k s op) : (s.touch op k seat).role = .released := by
  obtain ⟨same, hsame, hp⟩ := hp
  obtain rfl : seat = same := Option.some.inj (hk.symm.trans hsame)
  rcases hp with ⟨item, hitem, hreach, hfull⟩ | ⟨rfl, hrole⟩ | ⟨rfl, hrole⟩
  · rw [produced_of_live hlive] at hitem
    cases op with
    | write chunk => simp [touch, Seat.offer_role, hfull]
    | changeStatus change =>
      rcases hf : change.isFinal with _ | _
      · simp [Operation.item?, hf] at hitem
      · simp only [Operation.item?, hf, if_true, Option.some.injEq] at hitem
        have hobserver : seat.role = .observer := by
          subst hitem
          cases hrole : seat.role <;> simp_all [Item.reaches]
        simp [touch, hf, Seat.offerObserver, hobserver, Seat.offer_role, hfull]
    | _ => simp [Operation.item?] at hitem
  · simp [touch, Seat.isNamed, hrole]
  · simp [touch, Seat.isNamed, hrole]

/-- The names of all channels, in the order of arrival. -/
def ids (s : Session) : List String := s.seats.map (·.channel.id)

/-- A newcomer that has the name of another channel is seen in the list of names. -/
lemma not_nodup_ids_seatObserver (hk : s.seats[k]? = some seat) {c : Channel}
    (hid : seat.channel.id = c.id) : ¬ (s.seatObserver c).ids.Nodup := by
  intro hnodup
  simp only [ids, seatObserver, List.map_append, List.nodup_append] at hnodup
  have hmem : c.id ∈ (s.seats.map fun seat =>
      if seat.isNamed .observer c.id then seat.release else seat).map (·.channel.id) := by
    refine List.mem_map.2 ⟨_, List.mem_map.2 ⟨seat, List.mem_of_getElem? hk, rfl⟩, ?_⟩
    split
    · rw [Seat.release_id, hid]
    · exact hid
  exact hnodup.2.2 _ hmem c.id (by simp) rfl

/-- A channel that does not part keeps its role, as long as no newcomer takes its name. -/
lemma touch_role_of_not_parts (h : s.IsOpen given) (hk : s.seats[k]? = some seat)
    (hids : (s.step op).ids.Nodup) (hp : ¬ Parts k s op) :
    (s.touch op k seat).role = seat.role := by
  have hlive : s.isDestroyed = false := h.unmarked
  cases op with
  | attachDriver c startup =>
    simp only [touch]
    split
    · -- A newcomer that takes the place of an observer has its name, which is excluded.
      next hn =>
      simp only [Bool.and_eq_true, decide_eq_true_eq, Seat.isNamed, beq_iff_eq] at hn
      have hstep : s.step (.attachDriver c startup) = s.seatObserver c := by
        rw [step_eq h.live (by simp)]
        simp [reviews, moved, hn.1]
      rw [hstep] at hids
      exact absurd hids (not_nodup_ids_seatObserver hk hn.2.2)
    · rfl
  | attachObserver c =>
    simp only [touch]
    split
    · next hn =>
      simp only [Bool.and_eq_true, decide_eq_true_eq, Seat.isNamed, beq_iff_eq] at hn
      have hstep : s.step (.attachObserver c) = s.seatObserver c := by
        rw [step_eq h.live (by simp)]
        simp [reviews, moved]
      rw [hstep] at hids
      exact absurd hids (not_nodup_ids_seatObserver hk hn.2)
    · rfl
  | detachDriver name =>
    simp only [touch]
    split
    · next hn =>
      simp only [Bool.and_eq_true, decide_eq_true_eq, Seat.isNamed, beq_iff_eq] at hn
      exact absurd ⟨seat, hk, Or.inr (Or.inl ⟨by rw [hn.2], hn.1⟩)⟩ hp
    · rfl
  | detachObserver name =>
    simp only [touch]
    split
    · next hn =>
      simp only [Bool.and_eq_true, decide_eq_true_eq, Seat.isNamed, beq_iff_eq] at hn
      exact absurd ⟨seat, hk, Or.inr (Or.inr ⟨by rw [hn.2], hn.1⟩)⟩ hp
    · rfl
  | write chunk =>
    simp only [touch, Seat.offer_role]
    split
    · rfl
    · next hfull =>
      by_contra hne
      refine hp ⟨seat, hk, Or.inl ⟨.output chunk, by simp [produced, hlive, Operation.item?], ?_,
        by simpa using hfull⟩⟩
      cases hrole : seat.role <;> simp_all [Item.reaches]
  | changeStatus change =>
    simp only [touch, Seat.offerObserver]
    split
    · next hf =>
      split
      · next hobserver =>
        rw [Seat.offer_role]
        split
        · rfl
        · next hfull =>
          refine absurd ⟨seat, hk, Or.inl ⟨.completion change.after, ?_, ?_,
            by simpa using hfull⟩⟩ hp
          · simp [produced, hlive, Operation.item?, hf]
          · rw [hobserver]
            rfl
      · rfl
    · rfl
  | receive j max =>
    simp only [touch]
    split <;> rfl
  | dropReceiver j =>
    simp only [touch]
    split <;> rfl
  | _ => rfl

/-! ## One step -/

lemma taken_of_not_isQuiet (hq : op.isQuiet = false) (k : Nat) (s : Session) :
    taken k s op = [] := by
  cases op <;> first | rfl | simp [Operation.isQuiet] at hq

lemma item?_of_isQuiet (hq : op.isQuiet = true) : op.item? = none := by
  cases op <;> first | rfl | simp [Operation.isQuiet] at hq

/-- One operation, seen from one seat: its channel stays in place, the queue changes by what was
produced and what was taken, and the role stays or is given up. -/
lemma exists_seat_step (h : s.IsSound given) (hk : s.seats[k]? = some seat) (op : Operation) :
    ∃ next, (s.step op).seats[k]? = some next ∧ next.channel.id = seat.channel.id ∧
      taken k s op ++ next.channel.queue = seat.channel.queue ++
        (if seat.channel.accepts then addressed seat.role (s.produced op).toList else []) ∧
      (seat.role = .released → next.role = .released) := by
  rcases h with h | h
  · have hqueue := taken_append_touch hk op
    rw [produced_of_live h.unmarked]
    refine ⟨_, getElem?_step h hk op, ?_⟩
    split
    · exact ⟨by simp, by simpa using hqueue, by simp⟩
    · exact ⟨by simp, hqueue, fun hr => touch_role_of_released hr s op k⟩
  · rw [produced_of_destroyed h.marked]
    refine ⟨_, getElem?_step_of_isClosed h hk op, ?_⟩
    rcases hq : op.isQuiet with _ | _
    · simp [taken_of_not_isQuiet hq, addressed]
    · have hqueue := taken_append_touch hk op
      rw [item?_of_isQuiet hq] at hqueue
      exact ⟨by simp, by simpa using hqueue, fun hr => touch_role_of_released hr s op k⟩

/-- Names are only ever added. -/
lemma ids_step (h : s.IsSound given) (op : Operation) : s.ids <+: (s.step op).ids := by
  rw [List.prefix_iff_getElem?]
  intro i hi
  simp only [ids, List.length_map] at hi
  obtain ⟨next, hnext, hid, _⟩ := exists_seat_step h (List.getElem?_eq_getElem hi) op
  simp [ids, hnext, hid]

lemma ids_run (h : s.IsSound given) (ops : List Operation) : s.ids <+: (s.run ops).ids := by
  induction ops generalizing s with
  | nil => exact List.prefix_refl _
  | cons op ops ih => exact (ids_step h op).trans (ih (h.step op))

/-- The channel that an operation may seat. -/
def Operation.newcomer? : Operation → Option Channel
  | .attachDriver c _ | .attachObserver c => some c
  | _ => none

lemma ids_map {f : Seat → Seat} (hf : ∀ seat, (f seat).channel.id = seat.channel.id)
    (seats : List Seat) : (seats.map f).map (·.channel.id) = seats.map (·.channel.id) := by
  rw [List.map_map]
  exact List.map_congr_left fun seat _ => hf seat

lemma ids_vacate (s : Session) (role : Role) (name : String) :
    (s.vacate role name).ids = s.ids :=
  ids_map (fun seat => by split <;> simp) s.seats

lemma ids_seatObserver (s : Session) (c : Channel) :
    (s.seatObserver c).ids = s.ids ++ [c.id] := by
  have hkept := ids_vacate s .observer c.id
  simp only [ids, vacate] at hkept
  simp [ids, seatObserver, -List.map_map, hkept]

lemma ids_step_of_isQuiet (h : s.IsSound given) (hq : op.isQuiet = true) :
    (s.step op).ids = s.ids := by
  have hlength := congrArg List.length (alike_step hq s).roles
  exact ((ids_step h op).eq_of_length (by simpa [ids] using hlength.symm)).symm

lemma ids_moved (s : Session) (hq : op.isQuiet = false) (hop : op ≠ .shutdown) :
    (s.moved op).ids = s.ids ∨ ∃ c, op.newcomer? = some c ∧ (s.moved op).ids = s.ids ++ [c.id] := by
  cases op with
  | attachDriver c startup =>
    rcases hp : s.lifecycle.driver with _ | _ | _
    · rcases ho : startup.outcome with e | u
      · exact Or.inl (by simp [moved, hp, ho])
      · exact Or.inr ⟨c, rfl, by simp [moved, hp, ho, started, driven, seatDriver, ids]⟩
    · exact Or.inr ⟨c, rfl, by simp [moved, hp, ids_seatObserver]⟩
    · exact Or.inr ⟨c, rfl, by simp [moved, hp, driven, seatDriver, ids]⟩
  | attachObserver c => exact Or.inr ⟨c, rfl, ids_seatObserver s c⟩
  | detachDriver name | detachObserver name =>
    left
    simp only [moved]
    split
    · exact ids_vacate s _ name
    · rfl
  | write chunk =>
    simp only [moved]
    split <;> simp [ids, offered, undriven, -List.map_map, ids_map]
  | changeStatus change =>
    simp only [moved, announced]
    split <;> simp [ids, -List.map_map, ids_map]
  | subscribe => exact Or.inl (congrArg (List.map _) (seats_subscribe s))
  | unsubscribe n => exact Or.inl rfl
  | shutdown => exact absurd rfl hop
  | _ => simp [Operation.isQuiet] at hq

/-- An operation adds one name at most, that of the channel that it may seat. -/
lemma ids_step_cases (h : s.IsSound given) (op : Operation) :
    (s.step op).ids = s.ids ∨ ∃ c, op.newcomer? = some c ∧ (s.step op).ids = s.ids ++ [c.id] := by
  rcases hq : op.isQuiet with _ | _
  · rcases h with h | h
    · have hprepared : (s.step op).ids = (s.prepared op).ids := by
        rw [h.step_eq_prepared op]
        split
        · simp [concluded, dismantle, ids, -List.map_map, ids_map]
        · rfl
      by_cases hop : op = .shutdown
      · subst hop
        exact Or.inl hprepared
      · rw [hprepared, prepared_of_ne hop]
        exact ids_moved s hq hop
    · exact Or.inl (by rw [h.step_eq_self hq])
  · exact Or.inl (ids_step_of_isQuiet h hq)

/-- A channel that does not part keeps its role, unless the session ends. -/
lemma role_step_of_not_parts (h : s.IsOpen given) (hk : s.seats[k]? = some seat)
    (hids : (s.step op).ids.Nodup) (hp : ¬ Parts k s op) {next : Seat}
    (hnext : (s.step op).seats[k]? = some next) :
    next.role = seat.role ∨ next.role = .released ∧ (s.step op).isDestroyed = true := by
  have hrole := touch_role_of_not_parts h hk hids hp
  rw [getElem?_step h hk op] at hnext
  rcases hd : (s.step op).isDestroyed with _ | _
  · simp only [hd, Bool.false_eq_true, if_false, Option.some.injEq] at hnext
    subst hnext
    exact Or.inl hrole
  · simp only [hd, if_true, Option.some.injEq] at hnext
    subst hnext
    exact Or.inr ⟨Seat.release_role _, rfl⟩

lemma role_step_of_parts (h : s.IsOpen given) (hk : s.seats[k]? = some seat)
    (hp : Parts k s op) {next : Seat} (hnext : (s.step op).seats[k]? = some next) :
    next.role = .released := by
  have hrole := touch_role_of_parts h.unmarked hk hp
  rw [getElem?_step h hk op, Option.some.injEq] at hnext
  subst hnext
  split
  · exact Seat.release_role _
  · exact hrole

/-- Nobody parts from a session that has ended. -/
lemma not_parts_of_isClosed (h : s.IsClosed given) : ¬ Parts k s op := by
  rintro ⟨seat, hk, ⟨item, hitem, _⟩ | ⟨_, hrole⟩ | ⟨_, hrole⟩⟩
  · simp [produced_of_destroyed h.marked] at hitem
  · simp [h.vacant seat (List.mem_of_getElem? hk)] at hrole
  · simp [h.vacant seat (List.mem_of_getElem? hk)] at hrole

/-- The channel that parts gets nothing in that operation. -/
lemma Parts.gets_nothing (h : Parts k s op) (hk : s.seats[k]? = some seat) :
    (if seat.channel.accepts then addressed seat.role (s.produced op).toList else []) = [] := by
  obtain ⟨same, hsame, hp⟩ := h
  obtain rfl : seat = same := Option.some.inj (hk.symm.trans hsame)
  rcases hp with ⟨item, hitem, hreach, hfull⟩ | ⟨rfl, hrole⟩ | ⟨rfl, hrole⟩
  · simp [hfull]
  · simp [produced, Operation.item?, addressed]
  · simp [produced, Operation.item?, addressed]

/-- A channel that does not part gets everything that is meant for it. -/
lemma gets_all_of_not_parts (h : ¬ Parts k s op) (hk : s.seats[k]? = some seat) :
    (if seat.channel.accepts then addressed seat.role (s.produced op).toList else []) =
      addressed seat.role (s.produced op).toList := by
  rcases ha : seat.channel.accepts with _ | _
  · rcases hitem : s.produced op with _ | item
    · rfl
    · rcases hreach : item.reaches seat.role with _ | _
      · simp [addressed, hreach]
      · exact absurd ⟨seat, hk, Or.inl ⟨item, hitem, hreach, ha⟩⟩ h
  · rfl

/-! ## Whole runs -/

/-- The queue of a channel that was let go takes nothing more in. -/
lemma accepted_of_released (h : s.IsSound given) (hk : s.seats[k]? = some seat)
    (hr : seat.role = .released) (ops : List Operation) :
    accepted k s ops = seat.channel.queue := by
  induction ops generalizing s seat with
  | nil => exact accepted_nil hk
  | cons op ops ih =>
    obtain ⟨next, hnext, _, hqueue, hrole⟩ := exists_seat_step h hk op
    rw [accepted_cons, ih (h.step op) hnext (hrole hr), hqueue, hr]
    simp [addressed]

/-- A channel on a seat gets what its session produces until it parts, and nothing after that. -/
lemma isDelivered_run (h : s.IsSound given) (hk : s.seats[k]? = some seat) {role : Role}
    (hrole : seat.role = role ∨ seat.role = .released ∧ s.isDestroyed = true)
    (ops : List Operation) (hids : (s.run ops).ids.Nodup) :
    IsDelivered k role seat.channel.queue s ops := by
  induction ops generalizing s seat with
  | nil =>
    refine ⟨[], [], rfl, by simp, by simp, ?_⟩
    rw [accepted_nil hk]
    simp [production, addressed]
  | cons op ops ih =>
    obtain ⟨next, hnext, _, hqueue, hgone⟩ := exists_seat_step h hk op
    by_cases hp : Parts k s op
    · -- The channel parts now, and what follows is nothing to it.
      have hopen : s.IsOpen given := h.resolve_right fun hc => not_parts_of_isClosed hc hp
      refine ⟨[], op :: ops, rfl, by simp, ?_, ?_⟩
      · intro first post heq
        obtain ⟨rfl, rfl⟩ := List.cons.inj heq
        exact hp
      · rw [accepted_cons, accepted_of_released (h.step op) hnext
          (role_step_of_parts hopen hk hp hnext), hqueue, hp.gets_nothing hk]
        simp [production, addressed]
    · -- The channel stays, and what follows is the run from the next state.
      have hnodup : (s.step op).ids.Nodup :=
        hids.sublist (ids_run (h.step op) ops).sublist
      have hstays : next.role = role ∨
          next.role = .released ∧ (s.step op).isDestroyed = true := by
        rcases h with hopen | hclosed
        · -- While the session goes on nobody is let go without parting.
          have hkept : seat.role = role :=
            hrole.resolve_right fun hr => absurd hopen.unmarked (by simpa [isDestroyed] using hr.2)
          rw [← hkept]
          exact role_step_of_not_parts hopen hk hnodup hp hnext
        · exact Or.inr ⟨hgone (hclosed.vacant seat (List.mem_of_getElem? hk)),
            (hclosed.step op).marked⟩
      have hitems : addressed seat.role (s.produced op).toList =
          addressed role (s.produced op).toList := by
        rcases hrole with hrole | ⟨_, hd⟩
        · rw [hrole]
        · rw [produced_of_destroyed hd]
          rfl
      obtain ⟨during, rest, rfl, hstay, hpart, hall⟩ := ih (h.step op) hnext hstays hids
      refine ⟨op :: during, rest, rfl, ?_, ?_, ?_⟩
      · intro pre first post heq
        cases pre with
        | nil =>
          obtain ⟨rfl, rfl⟩ := List.cons.inj heq
          exact hp
        | cons b pre =>
          obtain ⟨rfl, rfl⟩ := List.cons.inj heq
          exact hstay pre first post rfl
      · exact hpart
      · calc accepted k s (op :: (during ++ rest))
            = taken k s op ++ accepted k (s.step op) (during ++ rest) := accepted_cons k s op _
          _ = (taken k s op ++ next.channel.queue) ++
                addressed role ((s.step op).production during) := by
              rw [hall, List.append_assoc]
          _ = seat.channel.queue ++ addressed role (s.produced op).toList ++
                addressed role ((s.step op).production during) := by
              rw [hqueue, gets_all_of_not_parts hp hk, hitems]
          _ = seat.channel.queue ++ addressed role (s.production (op :: during)) := by
              rw [production, addressed_append, List.append_assoc]

/-- A channel that is taken in has the last seat. -/
lemma Attaches.getElem?_step {c : Channel} {role : Role} (h : s.Attaches op c role) :
    (s.step op).seats[s.seats.length]? = some ⟨role, c⟩ := by
  cases h with
  | @driving _ startup h =>
    have heq := attachDriver_eq (live_of_attachDriver h) c startup
    rw [heq] at h
    simp only [step, perform, Prod.map_fst, id_eq, heq]
    rcases hp : s.lifecycle.driver with _ | _ | _
    · rcases ho : startup.outcome with e | u
      · simp [hp, ho] at h
      · simp [started, driven, seatDriver]
    · simp [hp] at h
    · simp [driven, seatDriver]
  | @demoted _ startup h =>
    have heq := attachDriver_eq (live_of_attachDriver h) c startup
    rw [heq] at h
    simp only [step, perform, Prod.map_fst, id_eq, heq]
    rcases hp : s.lifecycle.driver with _ | _ | _
    · rcases ho : startup.outcome with e | u <;> simp [hp, ho] at h
    · simp [seatObserver]
    · simp [hp] at h
  | observing h =>
    simp [step, perform, attachObserver, live_of_attachObserver h, seatObserver]

/-- **Every channel gets its part of what a session produces.**  If all channels have names of
their own, then in every run the channel that some operation takes in gets what the session
produces from then on for its role, in order, without a gap and with nothing in between, until it
parts or the session ends, and nothing after that. -/
theorem isDelivered_from_attachment (context : String) (given : Bool)
    (before after : List Operation) {op : Operation} {c : Channel} {role : Role}
    (hop : ((fresh context given).run before).Attaches op c role)
    (hids : ((fresh context given).run (before ++ op :: after)).ids.Nodup) :
    IsDelivered ((fresh context given).run before).seats.length role c.queue
      ((fresh context given).run (before ++ [op])) after := by
  have hsound := sound_run context given (before ++ [op])
  have hseat := hop.getElem?_step
  rw [run_append, run_cons] at hids
  rw [run_append, run_cons, run_nil] at hsound ⊢
  exact isDelivered_run hsound hseat (Or.inl rfl) after hids

/-- An observer with room for one chunk is let go at the second. -/
theorem isDelivered_to_full_observer :
    IsDelivered 1 .observer []
      ((fresh "work").run [.attachDriver (.fresh "typist" 4) ⟨.ok (), none⟩,
        .attachObserver (.fresh "guest" 1)])
      [.write [65], .write [66], .receive 1 none, .write [67]] :=
  isDelivered_from_attachment "work" true [.attachDriver (.fresh "typist" 4) ⟨.ok (), none⟩]
    [.write [65], .write [66], .receive 1 none, .write [67]] (.observing rfl) (by decide)

example :
    accepted 1 ((fresh "work").run [.attachDriver (.fresh "typist" 4) ⟨.ok (), none⟩,
      .attachObserver (.fresh "guest" 1)])
      [.write [65], .write [66], .receive 1 none, .write [67]] = [[65]] := by
  decide

end SharedTerminal.Session
