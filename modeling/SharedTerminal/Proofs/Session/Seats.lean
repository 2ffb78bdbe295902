import SharedTerminal.Proofs.Session.Settling

/-!
# Seats

What releasing a seat and offering it a chunk do to its role, to the name of its channel and to
the queue.  A seat changes its role only to be released, and a channel never changes its name.

The second part counts the seats of drivers: `drivers_vacate` and `drivers_offered` say how many
remain after some have left or were lost.
-/

namespace SharedTerminal.Session

namespace Seat

variable {seat : Seat} {chunk : Bytes}

@[simp] lemma release_role (seat : Seat) : seat.release.role = .released := by
  unfold release
  split
  · assumption
  · rfl

@[simp] lemma release_id (seat : Seat) : seat.release.channel.id = seat.channel.id := by
  unfold release
  split <;> rfl

@[simp] lemma release_queue (seat : Seat) : seat.release.channel.queue = seat.channel.queue := by
  unfold release
  split <;> rfl

lemma offer_of_released (h : seat.role = .released) : seat.offer chunk = seat := by
  simp [offer, h]

lemma offer_of_accepts (h : seat.role ≠ .released) (ha : seat.channel.accepts = true) :
    seat.offer chunk = ⟨seat.role, (seat.channel.send chunk).1⟩ := by
  rcases hr : seat.role with _ | _ | _
  · simp [offer, hr, Channel.send, ha]
  · simp [offer, hr, Channel.send, ha]
  · exact absurd hr h

lemma offer_of_refuses (h : seat.role ≠ .released) (ha : seat.channel.accepts = false) :
    seat.offer chunk = ⟨.released, (seat.channel.send chunk).1.release⟩ := by
  rcases hr : seat.role with _ | _ | _
  · simp [offer, hr, Channel.send, ha]
  · simp [offer, hr, Channel.send, ha]
  · exact absurd hr h

lemma offer_role (seat : Seat) (chunk : Bytes) :
    (seat.offer chunk).role = if seat.channel.accepts then seat.role else .released := by
  by_cases hr : seat.role = .released
  · simp [offer_of_released hr, hr]
  · rcases ha : seat.channel.accepts with _ | _
    · rw [offer_of_refuses hr ha]
      rfl
    · rw [offer_of_accepts hr ha]
      rfl

@[simp] lemma offer_id (seat : Seat) (chunk : Bytes) :
    (seat.offer chunk).channel.id = seat.channel.id := by
  by_cases hr : seat.role = .released
  · rw [offer_of_released hr]
  · rcases ha : seat.channel.accepts with _ | _
    · simp [offer_of_refuses hr ha, Channel.send, ha, Channel.release]
    · simp [offer_of_accepts hr ha, Channel.send, ha]

lemma offer_queue (hr : seat.role ≠ .released) (chunk : Bytes) :
    (seat.offer chunk).channel.queue =
      if seat.channel.accepts then seat.channel.queue ++ [chunk] else seat.channel.queue := by
  rcases ha : seat.channel.accepts with _ | _
  · simp [offer_of_refuses hr ha, Channel.send, ha, Channel.release]
  · simp [offer_of_accepts hr ha, Channel.send, ha]

@[simp] lemma offerObserver_id (seat : Seat) (chunk : Bytes) :
    (seat.offerObserver chunk).channel.id = seat.channel.id := by
  unfold offerObserver
  split
  · exact offer_id seat chunk
  · rfl

end Seat

/-! ## The seats of drivers -/

variable {s : Session}

/-- How many channels drive. -/
def drivers (s : Session) : Nat := s.seats.countP (·.role = .driver)

/-- If a change of the seats takes some of the drivers away, the others remain. -/
lemma countP_driver_map {f : Seat → Seat} {gone : Seat → Bool} (seats : List Seat)
    (hgone : ∀ seat, gone seat = true → seat.role = .driver)
    (hf : ∀ seat, (f seat).role = .driver ↔ seat.role = .driver ∧ gone seat = false) :
    (seats.map f).countP (·.role = .driver) + seats.countP gone =
      seats.countP (·.role = .driver) := by
  induction seats with
  | nil => rfl
  | cons seat seats ih =>
    simp only [List.map_cons, List.countP_cons, decide_eq_true_eq, hf]
    rcases hg : gone seat with _ | _
    · simp only [and_true, Bool.false_eq_true, if_false]
      omega
    · simp only [hgone seat hg, Bool.true_eq_false, and_false, if_true, if_false]
      omega

/-- A change of the seats that is about others leaves the drivers. -/
lemma countP_driver_map_of_iff {f : Seat → Seat} (seats : List Seat)
    (hf : ∀ seat, (f seat).role = .driver ↔ seat.role = .driver) :
    (seats.map f).countP (·.role = .driver) = seats.countP (·.role = .driver) := by
  rw [List.countP_map]
  apply List.countP_congr
  intro seat _
  simpa using hf seat

lemma drivers_vacate (s : Session) (name : String) :
    (s.vacate .driver name).drivers + s.seats.countP (Seat.isNamed .driver name) = s.drivers := by
  refine countP_driver_map s.seats (fun seat h => ?_) (fun seat => ?_)
  · simp only [Seat.isNamed, Bool.and_eq_true, decide_eq_true_eq] at h
    exact h.1
  · rcases h : seat.isNamed .driver name with _ | _
    · simp
    · simp

lemma drivers_vacate_observer (s : Session) (name : String) :
    (s.vacate .observer name).drivers = s.drivers := by
  refine countP_driver_map_of_iff s.seats fun seat => ?_
  rcases h : seat.isNamed .observer name with _ | _
  · simp
  · have hr : seat.role = .observer := by
      simp only [Seat.isNamed, Bool.and_eq_true, decide_eq_true_eq] at h
      exact h.1
    simp [hr]

lemma drivers_offered (s : Session) (chunk : Bytes) :
    (s.offered chunk).drivers + s.seats.countP (Seat.isLost .driver) = s.drivers := by
  refine countP_driver_map s.seats (fun seat h => ?_) (fun seat => ?_)
  · simp only [Seat.isLost, Bool.and_eq_true, decide_eq_true_eq] at h
    exact h.1
  · rw [Seat.offer_role]
    rcases ha : seat.channel.accepts with _ | _
    · simp [Seat.isLost, ha]
    · simp [Seat.isLost, ha]

lemma drivers_announced (s : Session) (change : Task.Change) :
    (s.announced change).drivers = s.drivers := by
  simp only [drivers, announced]
  split
  · refine countP_driver_map_of_iff s.seats fun seat => ?_
    unfold Seat.offerObserver
    split
    · next hr =>
      rw [Seat.offer_role, hr]
      split <;> simp
    · rfl
  · rfl

lemma drivers_seatObserver (s : Session) (c : Channel) :
    (s.seatObserver c).drivers = s.drivers := by
  rw [← drivers_vacate_observer s c.id]
  simp [drivers, seatObserver, vacate]

lemma drivers_driven (s : Session) (c : Channel) : (s.driven c).drivers = s.drivers + 1 := by
  simp [drivers, driven, seatDriver]

/-- With at most one driver, the one that leaves was the only one. -/
lemma drivers_vacate_of_any (h : s.drivers ≤ 1) {name : String}
    (hn : s.seats.any (Seat.isNamed .driver name) = true) :
    s.drivers = 1 ∧ (s.vacate .driver name).drivers = 0 := by
  have hpos : 0 < s.seats.countP (Seat.isNamed .driver name) := by
    simpa [List.countP_pos_iff] using hn
  have hsum := drivers_vacate s name
  omega

/-- With at most one driver, the one that is lost was the only one. -/
lemma drivers_offered_of_loses (h : s.drivers ≤ 1) (hl : s.loses .driver = true)
    (chunk : Bytes) : s.drivers = 1 ∧ (s.offered chunk).drivers = 0 := by
  have hpos : 0 < s.seats.countP (Seat.isLost .driver) := by
    simpa [loses, List.countP_pos_iff] using hl
  have hsum := drivers_offered s chunk
  omega

lemma drivers_offered_of_not_loses (hl : s.loses .driver = false) (chunk : Bytes) :
    (s.offered chunk).drivers = s.drivers := by
  have hzero : s.seats.countP (Seat.isLost .driver) = 0 := by
    simpa [loses, List.countP_eq_zero] using hl
  have hsum := drivers_offered s chunk
  omega

end SharedTerminal.Session
