import SharedTerminal.Proofs.Session.Commands
import SharedTerminal.Proofs.Session.Interference

/-!
# Who drives, and who does not

A request is granted to the channel that has the slot of the driver, and to no other.  Whoever has
lost the slot, or never had it, is a bystander (`HasBystander`) and remains one, so that nothing is
granted to it from then on.
-/

namespace SharedTerminal.Session

variable {s : Session} {given : Bool} {name : String} {i : Nat} {seat : Seat} {op : Operation}
  {command : Engine.Command}

/-! ## Requests in a run -/

lemma grantedIn_append (s : Session) (ops more : List Operation) :
    s.grantedIn (ops ++ more) = s.grantedIn ops ++ (s.run ops).grantedIn more := by
  induction ops generalizing s with
  | nil => rfl
  | cons op ops ih => simp [grantedIn, ih]

/-- Where nothing is asked for nothing is granted. -/
lemma grantedIn_eq_nil {ops : List Operation} (hops : ∀ op ∈ ops, op.request? = none)
    (s : Session) : s.grantedIn ops = [] := by
  induction ops generalizing s with
  | nil => rfl
  | cons op ops ih =>
    obtain ⟨hop, hrest⟩ := List.forall_mem_cons.1 hops
    rw [grantedIn, granted_of_request?_eq_none hop, ih hrest, List.append_nil]

/-- A request fails because the session has ended just if it has. -/
lemma destroyed_of_request (s : Session) (name : String) (command : Engine.Command) :
    (∃ context, (s.request name command).2 = .error (.destroyed context)) ↔
      s.lifecycle.destroyed = true := by
  unfold request drivenProcess
  rcases hd : s.lifecycle.destroyed with _ | _
  · rcases s.seats.any (Seat.isNamed .driver name) with _ | _
    · simp
    · rcases s.process with _ | p
      · simp
      · rcases hl : p.linked with _ | _
        · simp [hl]
        · rcases hr : p.running with _ | _ <;> simp [hl, hr]
  · simp

/-! ## The slot of the driver -/

/-- Who has the slot of the driver is in a session that goes on. -/
lemma IsSound.isDestroyed_of_driver (h : s.IsSound given)
    (hdriver : s.driver?.map Channel.id = some name) : s.isDestroyed = false := by
  rw [← Bool.not_eq_true]
  intro hd
  have hnone : s.driver? = none := by
    rw [driver?, Option.map_eq_none_iff, List.find?_eq_none]
    intro seat hseat
    simp [(h.isClosed hd).vacant seat hseat]
  simp [hnone] at hdriver

/-- What is granted to the channel that has the slot of the driver, or has not. -/
lemma IsSound.granted_eq (h : s.IsSound given) (hlive : s.isDestroyed = false)
    (hheeded : s.isHeeded = true) (hop : op.request? = some (name, command)) :
    s.granted op = if s.driver?.map Channel.id = some name then [command] else [] := by
  rw [granted_of_request? hop, h.request_eq, hlive, hheeded]
  simp only [Bool.false_eq_true, if_false, if_true]
  split <;> simp

/-- What is asked for by a channel that has not got the slot changes nothing. -/
lemma IsSound.step_of_lost (h : s.IsSound given) (hlive : s.isDestroyed = false)
    (hop : op.request? = some (name, command))
    (hlost : s.driver?.map Channel.id ≠ some name) : s.step op = s := by
  have hrequest := h.request_eq name command
  rw [hlive, if_neg Bool.false_ne_true, if_neg hlost] at hrequest
  rw [Session.step, perform_of_request? hop, hrequest]
  rfl

/-- Who asks to watch does not get it. -/
lemma Attaches.role_of_attachObserver {c d : Channel} {role : Role}
    (h : s.Attaches (.attachObserver d) c role) : role = .observer := by
  cases h
  rfl

/-! ## Bystanders -/

/-- A channel is on a seat, under its name, and does not drive. -/
def HasBystander (s : Session) (i : Nat) (name : String) : Prop :=
  ∃ seat, s.seats[i]? = some seat ∧ seat.channel.id = name ∧ seat.role ≠ .driver

/-- Whoever does not drive does not come to drive. -/
lemma HasBystander.run (h : s.HasBystander i name) (hs : s.IsSound given)
    (ops : List Operation) : (s.run ops).HasBystander i name := by
  induction ops generalizing s with
  | nil => exact h
  | cons op ops ih =>
    obtain ⟨seat, hseat, hid, hrole⟩ := h
    obtain ⟨next, hnext, hsame, -, -⟩ := exists_seat_step hs hseat op
    exact ih ⟨next, hnext, hsame.trans hid, role_step_ne_driver hs hseat hrole hnext⟩ (hs.step op)

/-- Nothing is granted to it. -/
lemma HasBystander.granted_eq_nil (h : s.HasBystander i name) (hs : s.IsSound given)
    (hids : s.ids.Nodup) (hop : op.request? = some (name, command)) : s.granted op = [] := by
  obtain ⟨seat, hseat, rfl, hrole⟩ := h
  rw [granted_of_request? hop,
    hs.request_eq_of_role_ne hids (List.mem_of_getElem? hseat) hrole command]
  simp

/-- A channel keeps its seat. -/
lemma IsSound.exists_seat_run (h : s.IsSound given) (hseat : s.seats[i]? = some seat)
    (ops : List Operation) :
    ∃ next, (s.run ops).seats[i]? = some next ∧ next.channel.id = seat.channel.id := by
  induction ops generalizing s seat with
  | nil => exact ⟨seat, hseat, rfl⟩
  | cons op ops ih =>
    obtain ⟨next, hnext, hid, -, -⟩ := exists_seat_step h hseat op
    obtain ⟨last, hlast, hsame⟩ := ih (h.step op) hnext
    exact ⟨last, hlast, hsame.trans hid⟩

/-- Whoever has lost the slot of the driver is a bystander. -/
lemma IsSound.hasBystander (h : s.IsSound given) (hseat : s.seats[i]? = some seat)
    (hlost : s.driver?.map Channel.id ≠ some seat.channel.id) :
    s.HasBystander i seat.channel.id := by
  refine ⟨seat, hseat, rfl, fun hrole => hlost ?_⟩
  have hmem := List.mem_of_getElem? hseat
  rcases h with h | h
  · refine (h.any_isNamed_driver _).1 (List.any_eq_true.2 ⟨seat, hmem, ?_⟩)
    simp [Seat.isNamed, hrole]
  · simp [h.vacant seat hmem] at hrole

end SharedTerminal.Session
