import SharedTerminal.Proofs.Session.Commands

/-!
# The slot of the driver

Whoever asks to drive gets the slot of the driver if it is free, and observes if it is taken.  A
session does not look at the channel in the slot to find out (`observes_iff`): it learns that
nobody reads there from a chunk that the channel refuses, or from its departure.  Until then a dead
driver holds its slot (`HoldsDead.run`), and all who come observe.  The chunk that finds it out
frees the slot, and the next one who comes takes over the same engine, if a command has kept the
session so long.

The main statement is `dead_driver_holds_slot`.
-/

namespace SharedTerminal.Session

variable {s : Session} {given : Bool} {k : Nat} {seat : Seat} {op : Operation} {c d : Channel}
  {startup : Startup}

/-! ## Who has the slot -/

/-- Whoever has the slot is on a seat, with the role. -/
lemma exists_seat_of_driver? (hd : s.driver? = some d) :
    ∃ (k : Nat) (seat : Seat),
      s.seats[k]? = some seat ∧ seat.role = .driver ∧ seat.channel = d := by
  obtain ⟨seat, hfound, rfl⟩ := Option.map_eq_some_iff.1 hd
  obtain ⟨k, hk⟩ := List.getElem?_of_mem (List.mem_of_find?_eq_some hfound)
  have hrole := List.find?_some hfound
  exact ⟨k, seat, hk, by simpa using hrole, rfl⟩

/-- Whoever asks to drive observes just if the slot is taken, open or not. -/
lemma IsSound.observes_iff (h : s.IsSound given) (c : Channel) (startup : Startup) :
    (s.attachDriver c startup).2 = .ok .observing ↔ s.driver?.isSome = true := by
  rcases h with h | h
  · rw [h.isSome_driver?, hasDriver, attachDriver_eq h.live]
    rcases hp : s.lifecycle.driver with _ | _ | _
    · rcases ho : startup.outcome with e | u <;> simp
    · simp
    · simp
  · simp [h.driver?_eq_none, attachDriver, h.finished]

/-- Whoever comes when the slot is free again drives the engine that there is. -/
lemma IsOpen.takes_over (h : s.IsOpen given) (hp : s.lifecycle.driver = .departed)
    (c : Channel) (startup : Startup) :
    (s.attachDriver c startup).2 = .ok .driving ∧
      (s.attachDriver c startup).1.process = s.process ∧
      (s.attachDriver c startup).1.driver? = some c := by
  have heq : s.attachDriver c startup = (s.driven c, .ok .driving) := by
    rw [attachDriver_eq h.live, hp]
  have hstep : s.step (.attachDriver c startup) = s.driven c := congrArg Prod.fst heq
  have hlive : (s.step (.attachDriver c startup)).isDestroyed = false :=
    h.isSound.isDestroyed_attachDriver (congrArg Prod.snd heq)
  have hnext := (h.step (.attachDriver c startup)).isOpen hlive
  rw [hstep] at hnext
  have hseat : (⟨.driver, c⟩ : Seat) ∈ (s.driven c).seats := by
    simp [driven, seatDriver]
  rw [heq]
  exact ⟨rfl, rfl, hnext.driver?_eq hseat rfl⟩

/-! ## A dead driver -/

/-- A channel that takes nothing any more has the slot. -/
def HoldsDead (s : Session) (name : String) : Prop :=
  ∃ d, s.driver? = some d ∧ d.id = name ∧ d.isClosed = true

/-- Whether a session learns from an operation that the driver with a name is gone. -/
def Operation.tellsOf (name : String) : Operation → Bool
  | .write _ => true
  | .detachDriver other => other = name
  | _ => false

/-- A closed channel does not open again. -/
lemma isClosed_receive (hc : c.isClosed = true) (max : Option Nat) :
    (c.receive max).1.isClosed = true := by
  cases max <;> exact hc

lemma isClosed_dropReceiver (c : Channel) : c.dropReceiver.isClosed = true := by
  simp [Channel.isClosed, Channel.dropReceiver]

/-- What tells nothing of a dead driver leaves it where it is. -/
lemma touch_of_dead (hrole : seat.role = .driver) (hdead : seat.channel.isClosed = true)
    (hop : op.tellsOf seat.channel.id = false) (s : Session) (k : Nat) :
    (s.touch op k seat).role = .driver ∧ (s.touch op k seat).channel.isClosed = true := by
  cases op with
  | write chunk => simp [Operation.tellsOf] at hop
  | detachDriver name =>
    have hne : seat.channel.id ≠ name := by simpa [Operation.tellsOf, Ne, eq_comm] using hop
    have hother : seat.isNamed .driver name = false := by simp [Seat.isNamed, hne]
    simp [touch, hother, hrole, hdead]
  | receive j max =>
    simp only [touch]
    split
    · exact ⟨hrole, isClosed_receive hdead max⟩
    · exact ⟨hrole, hdead⟩
  | dropReceiver j =>
    simp only [touch]
    split
    · exact ⟨hrole, isClosed_dropReceiver _⟩
    · exact ⟨hrole, hdead⟩
  | _ => simp [touch, Seat.isNamed, Seat.offerObserver, hrole, hdead]

lemma HoldsDead.step {name : String} (hd : s.HoldsDead name) (h : s.IsSound given)
    (hop : op.tellsOf name = false) (hlive : (s.step op).isDestroyed = false) :
    (s.step op).HoldsDead name := by
  obtain ⟨d, hslot, rfl, hdead⟩ := hd
  have hopen : s.IsOpen given := by
    refine h.isOpen ?_
    rw [← Bool.not_eq_true]
    intro hended
    simp [(h.isClosed hended).driver?_eq_none] at hslot
  obtain ⟨k, seat, hk, hdriver, rfl⟩ := exists_seat_of_driver? hslot
  have hnext := getElem?_step hopen hk op
  rw [hlive, if_neg (by decide)] at hnext
  obtain ⟨hrole, hclosed⟩ := touch_of_dead hdriver hdead hop s k
  have hstanding := ((h.step op).isOpen hlive).toStanding
  exact ⟨_, hstanding.driver?_eq (List.mem_of_getElem? hnext) hrole, touch_id s op k _, hclosed⟩

/-- A dead driver holds its slot as long as the session goes on and learns nothing of it. -/
lemma HoldsDead.run {name : String} (hd : s.HoldsDead name) (h : s.IsSound given)
    {ops : List Operation} (hops : ∀ op ∈ ops, op.tellsOf name = false)
    (hlive : (s.run ops).isDestroyed = false) : (s.run ops).HoldsDead name := by
  induction ops generalizing s with
  | nil => exact hd
  | cons op ops ih =>
    obtain ⟨hop, hrest⟩ := List.forall_mem_cons.1 hops
    have hstill : (s.step op).isDestroyed = false := by
      rw [← Bool.not_eq_true]
      intro hended
      have hlast : ((s.step op).run ops).isDestroyed = true :=
        (((h.step op).isClosed hended).run ops).marked
      simp [run_cons, hlast] at hlive
    exact ih (hd.step h hop hstill) (h.step op) hrest hlive

/-- A chunk finds out that the driver is dead and frees the slot.  If no command runs the session
ends with that. -/
lemma HoldsDead.step_write {name : String} (hd : s.HoldsDead name) (h : s.IsOpen given)
    (chunk : Bytes) :
    (s.step (.write chunk)).driver? = none ∧
      (s.step (.write chunk)).isDestroyed = !s.isActive ∧
      (s.step (.write chunk)).lifecycle.driver = .departed ∧
      (s.isActive = true → (s.step (.write chunk)).process = s.process) := by
  obtain ⟨d, hslot, -, hdead⟩ := hd
  obtain ⟨k, seat, hk, hdriver, rfl⟩ := exists_seat_of_driver? hslot
  -- A closed channel refuses every chunk, be it that it refused one before or that nobody reads.
  have hlost : s.loses .driver = true := by
    have hrefuses : seat.channel.accepts = false := by
      simp only [Channel.isClosed, Bool.or_eq_true, Bool.not_eq_true'] at hdead
      rcases hdead with hdead | hdead <;> simp [Channel.accepts, hdead]
    exact List.any_eq_true.2
      ⟨seat, List.mem_of_getElem? hk, by simp [Seat.isLost, hdriver, hrefuses]⟩
  have hattached : s.lifecycle.driver = .attached := by
    have hsome := h.isSome_driver?
    rw [hslot] at hsome
    simpa [hasDriver] using hsome.symm
  have hstep : s.step (.write chunk) = (s.offered chunk).undriven.settled := by
    have hwrite := write_eq h.live chunk
    rw [hlost, if_pos rfl] at hwrite
    exact hwrite
  have hdeparted : (s.step (.write chunk)).lifecycle.driver = .departed := by
    simp [hstep, undriven, offered, hattached, Lifecycle.leave]
  have hended : (s.step (.write chunk)).isDestroyed = !s.isActive := by
    rw [(h.step _).isDestroyed_eq, hstep, settled_destroyed]
    simp [undriven, offered, h.live, Lifecycle.isAbandoned, hattached, Lifecycle.leave, isActive]
  refine ⟨?_, hended, hdeparted, fun hactive => ?_⟩
  · rcases h.step (.write chunk) with hnext | hnext
    · rw [← Option.not_isSome_iff_eq_none, hnext.isSome_driver?, hasDriver, hdeparted]
      decide
    · exact hnext.driver?_eq_none
  · rw [hstep, settled_of_used]
    · rfl
    · rw [isActive] at hactive
      simp [undriven, offered, Lifecycle.isAbandoned, hactive]

/-- **A dead driver holds its slot until a chunk finds it out.**  Whoever asks to drive observes
just if the slot is taken, so nobody observes behind a closed channel just if there is none in the
slot.  A closed channel keeps the slot in any run in which nothing is written, it does not leave and
the session does not end, and whoever comes in that time observes.  The first chunk that is written
frees the slot.  The session ends with it if no command runs; otherwise the next one who comes
drives, and the engine goes on as it was. -/
theorem dead_driver_holds_slot (context : String) (given : Bool) (ops : List Operation) :
    let s := (fresh context given).run ops
    (∀ c startup, (s.attachDriver c startup).2 = .ok .observing ↔ s.driver?.isSome = true) ∧
    ((∀ c startup, (s.attachDriver c startup).2 = .ok .observing →
        ∀ d ∈ s.driver?, d.isClosed = false) ↔ ∀ d ∈ s.driver?, d.isClosed = false) ∧
    (∀ d, s.driver? = some d → d.isClosed = true →
      (∀ more, (∀ op ∈ more, op.tellsOf d.id = false) → (s.run more).isDestroyed = false →
        (s.run more).HoldsDead d.id ∧
          ∀ c startup, ((s.run more).attachDriver c startup).2 = .ok .observing) ∧
      (∀ chunk,
        let next := s.step (.write chunk)
        next.driver? = none ∧ next.isDestroyed = !s.isActive ∧
          (s.isActive = true → ∀ c startup,
            (next.attachDriver c startup).2 = .ok .driving ∧
            (next.attachDriver c startup).1.process = s.process ∧
            (next.attachDriver c startup).1.driver? = some c))) := by
  intro s
  have hs : s.IsSound given := sound_run context given ops
  refine ⟨hs.observes_iff, ⟨fun h d hd => ?_, fun h _ _ _ => h⟩, fun d hd hdead => ⟨?_, ?_⟩⟩
  · have htaken : s.driver?.isSome = true := by rw [hd]; rfl
    exact h (.fresh "" 1) ⟨.ok (), none⟩ ((hs.observes_iff _ _).2 htaken) d hd
  · intro more hmore hlive
    have hholds : (s.run more).HoldsDead d.id := HoldsDead.run ⟨d, hd, rfl, hdead⟩ hs hmore hlive
    refine ⟨hholds, fun c startup => ?_⟩
    obtain ⟨still, hstill, -, -⟩ := hholds
    exact ((hs.run more).observes_iff c startup).2 (by rw [hstill]; rfl)
  · intro chunk next
    have hopen : s.IsOpen given := by
      refine hs.isOpen ?_
      rw [← Bool.not_eq_true]
      intro hended
      simp [(hs.isClosed hended).driver?_eq_none] at hd
    obtain ⟨hfree, hended, hdeparted, hprocess⟩ :=
      HoldsDead.step_write ⟨d, hd, rfl, hdead⟩ hopen chunk
    refine ⟨hfree, hended, fun hactive c startup => ?_⟩
    have hnext : next.IsOpen given := (hopen.step _).isOpen (by rw [hended, hactive]; rfl)
    obtain ⟨hdrives, hsame, hslot⟩ := hnext.takes_over hdeparted c startup
    exact ⟨hdrives, hsame.trans (hprocess hactive), hslot⟩

/-- Behind a driver that has gone away without a word, a newcomer observes. -/
theorem not_forall_observing_isOpen :
    ¬ ∀ (context : String) (given : Bool) (ops : List Operation) (c : Channel)
      (startup : Startup),
      let s := (fresh context given).run ops
      s.isDestroyed = false → (s.attachDriver c startup).2 = .ok .observing →
        ∀ d ∈ s.driver?, d.isClosed = false := by
  intro h
  have hgone := h "work" true [.attachDriver (.fresh "a" 4) ⟨.ok (), none⟩, .dropReceiver 0]
    (.fresh "b" 4) ⟨.ok (), none⟩ rfl rfl (Channel.fresh "a" 4).dropReceiver rfl
  exact absurd hgone (by decide)

end SharedTerminal.Session
