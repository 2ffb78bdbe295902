import SharedTerminal.Proofs.Session.Ending
import SharedTerminal.Proofs.Session.Keeping

/-!
# What a session tells of itself

Whoever asks a session if it has a driver, or if a command runs, is answered by its lifecycle.
While the session goes on, the answers are right: a channel drives just if there is a driver, and a
command runs just if the status that was taken note of last is not final (`isActive_run`).

The end keeps the lifecycle as it was.  A session that ends because nobody can use it has neither a
driver nor a command, and says so for good.  A session that is told to end can have both, and goes on
saying so, although it has let the channel go (`isDestroyed_and_look_iff`).  So the answers are right
just if the session was not cut off; the main statement is `tells_truth_iff_not_cut_off`.
-/

namespace SharedTerminal.Session

variable {s : Session} {given : Bool} {op : Operation}

/-! ## The status taken note of last -/

/-- The status that a session took note of last in a list of operations. -/
def notedStatus? (s : Session) (ops : List Operation) : Option Task.Status :=
  (s.reportedIn ops).getLast?.map Task.Change.after

/-- Whether a command runs by what a session took note of: the last status is not final. -/
def isBusy (s : Session) (ops : List Operation) : Bool :=
  (s.notedStatus? ops).any fun status => !status.isFinal

lemma notedStatus?_cons (s : Session) (op : Operation) (ops : List Operation) :
    s.notedStatus? (op :: ops) =
      ((s.step op).notedStatus? ops).or ((s.reported op).getLast?.map Task.Change.after) := by
  rw [notedStatus?, reportedIn, List.getLast?_append, Option.map_or]
  rfl

/-- An operation changes whether a command runs only by a change of status. -/
lemma IsOpen.isActive_step (h : s.IsOpen given) (hlive : (s.step op).isDestroyed = false) :
    (s.step op).isActive =
      ((s.reported op).getLast?.map Task.Change.after).elim s.isActive fun status =>
        !status.isFinal := by
  have hs : s.isDestroyed = false := h.unmarked
  rw [isActive, h.lifecycle_step hlive, h.isSound.reported_eq, hs, if_neg (by decide)]
  rcases hop : op.change? with _ | change
  · simp [activity, hop, isActive]
  · simp [activity, hop, Task.Change.isFinal]

/-- A session that has not ended after a list of operations had not ended before. -/
lemma IsSound.live_of_run (h : s.IsSound given) {ops : List Operation}
    (hlive : (s.run ops).isDestroyed = false) : s.isDestroyed = false := by
  rw [← Bool.not_eq_true]
  intro hended
  have hmark : (s.run ops).isDestroyed = true := ((h.isClosed hended).run ops).marked
  rw [hmark] at hlive
  exact absurd hlive (by decide)

/-- While a session goes on, a command runs just if the last status is not final. -/
lemma IsOpen.isActive_run (h : s.IsOpen given) {ops : List Operation}
    (hlive : (s.run ops).isDestroyed = false) :
    (s.run ops).isActive =
      (s.notedStatus? ops).elim s.isActive fun status => !status.isFinal := by
  induction ops generalizing s with
  | nil => rfl
  | cons op ops ih =>
    have hstep : (s.step op).isDestroyed = false := (h.step op).live_of_run hlive
    have hrest := ih ((h.step op).isOpen hstep) hlive
    rw [run_cons, hrest, h.isActive_step hstep, notedStatus?_cons]
    rcases (s.step op).notedStatus? ops with _ | status <;> rfl

/-! ## After the end -/

/-- A session is told to end in the course of a list of operations, when it goes on and something
holds of it. -/
def IsCutOff (s : Session) (p : Session → Bool) (ops : List Operation) : Prop :=
  ∃ before after, ops = before ++ .shutdown :: after ∧
    (s.run before).isDestroyed = false ∧ p (s.run before) = true

lemma not_isCutOff_nil (s : Session) (p : Session → Bool) : ¬ s.IsCutOff p [] := by
  rintro ⟨before, after, heq, -⟩
  simp at heq

lemma isCutOff_cons (s : Session) (p : Session → Bool) (op : Operation)
    (ops : List Operation) :
    s.IsCutOff p (op :: ops) ↔
      (op = .shutdown ∧ s.isDestroyed = false ∧ p s = true) ∨ (s.step op).IsCutOff p ops := by
  constructor
  · rintro ⟨before, after, heq, hlive, hp⟩
    rcases before with _ | ⟨first, before⟩
    · exact .inl ⟨(List.cons.inj heq).1, hlive, hp⟩
    · obtain ⟨rfl, rfl⟩ := List.cons.inj heq
      exact .inr ⟨before, after, rfl, hlive, hp⟩
  · rintro (⟨rfl, hlive, hp⟩ | ⟨before, after, rfl, hlive, hp⟩)
    · exact ⟨[], ops, rfl, hlive, hp⟩
    · exact ⟨op :: before, after, rfl, hlive, hp⟩

/-- Nobody tells a session to end that has ended. -/
lemma IsClosed.not_isCutOff (h : s.IsClosed given) (p : Session → Bool)
    (ops : List Operation) : ¬ s.IsCutOff p ops := by
  rintro ⟨before, after, -, hlive, -⟩
  have hmark : (s.run before).isDestroyed = true := (h.run before).marked
  rw [hmark] at hlive
  exact absurd hlive (by decide)

lemma IsClosed.lifecycle_run (h : s.IsClosed given) (ops : List Operation) :
    (s.run ops).lifecycle = s.lifecycle := by
  induction ops generalizing s with
  | nil => rfl
  | cons op ops ih =>
    rw [run_cons, ih (h.step op)]
    rcases hq : op.isQuiet with _ | _
    · rw [h.step_eq_self hq]
    · exact (alike_step hq s).lifecycle

/-- A look at a lifecycle that does not ask if it has ended, and sees nothing where nobody can use
the session. -/
structure IsLook (look : Lifecycle → Bool) : Prop where
  /-- The end does not matter. -/
  ended : ∀ (l : Lifecycle) (b : Bool), look { l with destroyed := b } = look l
  /-- Something is seen only if someone can use the session. -/
  used : ∀ l : Lifecycle, look l = true → l.isAbandoned = false

lemma isLook_active : IsLook Lifecycle.active :=
  ⟨fun _ _ => rfl, fun l h => by simp [Lifecycle.isAbandoned, h]⟩

lemma isLook_attached : IsLook fun l => l.driver = .attached :=
  ⟨fun _ _ => rfl, fun l h => by simpa [Lifecycle.isAbandoned] using fun _ => h⟩

/-- What can be seen of a session that an operation ended: all that could be seen before if it was
told to end, and nothing otherwise. -/
lemma IsOpen.look_step_iff (h : s.IsOpen given) {look : Lifecycle → Bool} (hlook : IsLook look)
    (hended : (s.step op).isDestroyed = true) :
    look (s.step op).lifecycle = true ↔ op = .shutdown ∧ look s.lifecycle = true := by
  by_cases hop : op = .shutdown
  · subst hop
    have hsame : (s.step .shutdown).lifecycle = { s.lifecycle with destroyed := true } :=
      congrArg Session.lifecycle (shutdown_eq h.live)
    rw [hsame, hlook.ended]
    simp
  · -- The session asked itself, and nobody could use it.
    have hlive : s.isDestroyed = false := h.unmarked
    rw [h.isSound.isDestroyed_step, hlive, Concludes] at hended
    obtain ⟨-, hactive, hdriver⟩ : s.reviews op = true ∧ (s.step op).isActive = false ∧
        (s.step op).hasDriver = false := by simpa [hop] using hended
    have habandoned : (s.step op).lifecycle.isAbandoned = true := by
      simp only [isActive, hasDriver, decide_eq_false_iff_not] at hactive hdriver
      simp [Lifecycle.isAbandoned, hactive, hdriver]
    have hnothing : look (s.step op).lifecycle = false := by
      rw [← Bool.not_eq_true]
      intro hsees
      rw [hlook.used _ hsees] at habandoned
      exact absurd habandoned (by decide)
    simp [hnothing, hop]

/-- **What can be seen of a session that has ended** is what could be seen when it was told to end,
if that is how it ended. -/
theorem IsOpen.isDestroyed_and_look_iff (h : s.IsOpen given) {look : Lifecycle → Bool}
    (hlook : IsLook look) (ops : List Operation) :
    ((s.run ops).isDestroyed = true ∧ look (s.run ops).lifecycle = true) ↔
      s.IsCutOff (fun t => look t.lifecycle) ops := by
  induction ops generalizing s with
  | nil =>
    have hlive : s.isDestroyed = false := h.unmarked
    simp [hlive, not_isCutOff_nil]
  | cons op ops ih =>
    rw [run_cons, isCutOff_cons]
    have hlive : s.isDestroyed = false := h.unmarked
    rcases hended : (s.step op).isDestroyed with _ | _
    · have hop : op ≠ .shutdown := by
        rintro rfl
        have hmark : (s.step .shutdown).isDestroyed = true := h.toStanding.shutdown.marked
        rw [hmark] at hended
        exact absurd hended (by decide)
      rw [ih ((h.step op).isOpen hended)]
      simp [hop]
    · -- From here on the lifecycle stays as it is.
      have hclosed := (h.step op).isClosed hended
      have hmark : ((s.step op).run ops).isDestroyed = true := (hclosed.run ops).marked
      rw [hclosed.lifecycle_run ops, hmark, h.look_step_iff hlook hended]
      simp [hlive, hclosed.not_isCutOff]

/-! ## When a session tells the truth -/

/-- The driver that a session tells of is there while the session goes on. -/
lemma IsSound.isCutOff_driver_iff (h : s.IsSound given) (ops : List Operation) :
    s.IsCutOff (fun t => t.driver?.isSome) ops ↔ s.IsCutOff hasDriver ops := by
  refine exists_congr fun before => exists_congr fun after => and_congr_right fun _ =>
    and_congr_right fun hlive => ?_
  exact Bool.eq_iff_iff.1 ((h.run before).isOpen hlive).isSome_driver?

/-- **A session tells the truth about itself unless it was cut off.**  While it goes on, it has a
driver just if a channel drives, and a command runs just if the last status it took note of is not
final.  Once it has ended no channel drives; it then says that it has a driver just if it was told to
end while a channel drove, and that a command runs just if it was told to end while one ran.  So the
one answer is right just if it was not told to end while a channel drove, and the other just if it
was not told to end while a command ran. -/
theorem tells_truth_iff_not_cut_off (context : String) (given : Bool) (ops : List Operation) :
    let start := fresh context given
    let s := start.run ops
    (s.isDestroyed = false →
      s.hasDriver = s.driver?.isSome ∧ s.isActive = start.isBusy ops) ∧
    (s.isDestroyed = true → s.driver? = none ∧
      (s.hasDriver = true ↔ start.IsCutOff (fun t => t.driver?.isSome) ops) ∧
      (s.isActive = true ↔ start.IsCutOff isActive ops)) ∧
    (s.hasDriver = s.driver?.isSome ↔ ¬ start.IsCutOff (fun t => t.driver?.isSome) ops) ∧
    ((s.isActive = true → s.isDestroyed = false ∧ start.isBusy ops = true) ↔
      ¬ start.IsCutOff isActive ops) := by
  intro start s
  have hstart : start.IsOpen given := isOpen_fresh context given
  have hs : s.IsSound given := sound_run context given ops
  have hdriver : (s.isDestroyed = true ∧ s.hasDriver = true) ↔
      start.IsCutOff (fun t => t.driver?.isSome) ops := by
    rw [hstart.isSound.isCutOff_driver_iff]
    exact hstart.isDestroyed_and_look_iff isLook_attached ops
  have hactive : (s.isDestroyed = true ∧ s.isActive = true) ↔ start.IsCutOff isActive ops :=
    hstart.isDestroyed_and_look_iff isLook_active ops
  rcases hended : s.isDestroyed with _ | _
  · have hsame : s.hasDriver = s.driver?.isSome := ((hs.isOpen hended).isSome_driver?).symm
    have hbusy : s.isActive = start.isBusy ops := by
      have hrun : s.isActive = _ := hstart.isActive_run hended
      rw [hrun, isBusy]
      rcases start.notedStatus? ops with _ | status <;> rfl
    simp [← hdriver, ← hactive, hended, hsame, hbusy]
  · have hnone : s.driver? = none := (hs.isClosed hended).driver?_eq_none
    simp [← hdriver, ← hactive, hended, hnone]

/-- A session that is told to end while a channel drives and a command runs says for good that it has
a driver and that a command runs. -/
theorem not_forall_tells_truth :
    ¬ ∀ (context : String) (given : Bool) (ops : List Operation),
      let s := (fresh context given).run ops
      s.hasDriver = s.driver?.isSome ∧
        (s.isActive = true →
          s.isDestroyed = false ∧ (fresh context given).isBusy ops = true) := by
  intro h
  have hcut := h "work" true [.attachDriver (.fresh "d" 4) ⟨.ok (), none⟩,
    .changeStatus ⟨"1", .new, .running, "work"⟩, .shutdown]
  exact absurd hcut.1 (by decide)

end SharedTerminal.Session
