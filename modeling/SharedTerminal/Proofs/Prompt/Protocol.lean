import SharedTerminal.Proofs.Prompt.Stream

/-!
# The protocol of a prompt

`IsOrdered` says that the stream of a history is orderly and where in it the prompt stands,
`IsJudged` that the statuses with which tasks ended are the right ones, and `IsCounted` that every
prompt and every task has its reason.  One move preserves each, and so does a whole run;
`run_events` puts together what follows for the stream.

A chunk counts as one operation, although tasks write at any time: a task that a chunk starts is
the last thing that the prompt tells of in this chunk, and before that no task is read.
-/

namespace SharedTerminal.Prompt

open SharedTerminal.Task (Status)

variable {t : Nat} {o : Option Nat}

/-! ## Where the prompt stands -/

/-- The stream is orderly, and the prompt and the tasks stand where it says. -/
structure IsOrdered (o : Option Nat) (h : History) : Prop where
  /-- The stream has the form that the protocol asks for. -/
  orderly : Orderly o h.stream
  /-- It tells of tasks with smaller numbers than the next one. -/
  fresh : ∀ c ∈ changes h.stream, c.1 < h.prompt.next
  /-- The task that has not ended runs, -/
  current : h.prompt.stopped = false → h.prompt.running.map Running.task = o
  /-- unless the prompt has stopped. -/
  halted : h.prompt.stopped = true → h.prompt.running = none
  /-- Only this task is read. -/
  reading : ∀ t ∈ h.readers, o = some t
  /-- What is read has not ended. -/
  apart : ∀ x ∈ h.exits, x.1 ∉ h.readers
  /-- What has ended was started. -/
  known : ∀ x ∈ h.exits, x.1 < h.prompt.next

variable {h h' : History}

lemma isOrdered_start (first : Nat) : IsOrdered none (History.start first) where
  orderly := .start
  fresh := by simp [History.start, Prompt.start, reports]
  current _ := rfl
  halted _ := rfl
  reading := by simp [History.start]
  apart := by simp [History.start]
  known := by simp [History.start]

namespace IsOrdered

/-- At the prompt every task has ended. -/
lemma eq_none (hi : IsOrdered o h) (hlive : h.prompt.stopped = false)
    (hidle : h.prompt.running = none) : o = none := by
  rw [← hi.current hlive, hidle]
  rfl

lemma readers_eq_nil (hi : IsOrdered none h) : h.readers = [] :=
  List.eq_nil_iff_forall_not_mem.2 fun t ht => by simpa using hi.reading t ht

/-- The task that has not ended has a number already. -/
lemma lt_next (hi : IsOrdered (some t) h) : t < h.prompt.next :=
  hi.fresh _ hi.orderly.isOpen.1

lemma not_stopped (hi : IsOrdered o h) {r : Running} (hrun : h.prompt.running = some r) :
    h.prompt.stopped = false := by
  rcases hs : h.prompt.stopped with _ | _
  · rfl
  · simp [hi.halted hs] at hrun

lemma eq_some (hi : IsOrdered o h) {r : Running} (hrun : h.prompt.running = some r) :
    o = some r.task := by
  rw [← hi.current (hi.not_stopped hrun), hrun]
  rfl

/-- A task of which nothing was said yet begins. -/
lemma announce (hi : IsOrdered none h) :
    Orderly (some h.prompt.next)
      (h.stream ++ [.told (.status h.prompt.next .new .running)]) :=
  .announce hi.orderly hi.fresh

end IsOrdered

lemma isFinal_finalStatus (r : Running) (success : Bool) :
    (finalStatus r success).isFinal = true := by
  rw [finalStatus]
  split
  · rfl
  · split <;> rfl

lemma Move.isOrdered (hm : Move h h') (hi : IsOrdered o h) : ∃ o, IsOrdered o h' := by
  cases hm with
  | edit hlive hidle hblank hline hbreak line =>
    exact ⟨o, hi.orderly, hi.fresh, hi.current, hi.halted, hi.reading, hi.apart, hi.known⟩
  | echo hlive hidle bytes =>
    obtain rfl := hi.eq_none hlive hidle
    exact ⟨none, hi.orderly.echo bytes, by simpa using hi.fresh, hi.current, hi.halted,
      hi.reading, hi.apart, hi.known⟩
  | reprompt hlive hidle hasks =>
    obtain rfl := hi.eq_none hlive hidle
    exact ⟨none, hi.orderly.ready, by simpa using hi.fresh, hi.current, hi.halted, hi.reading,
      hi.apart, hi.known⟩
  | launch hlive hidle hline =>
    obtain rfl := hi.eq_none hlive hidle
    -- At the prompt no task is read, so the new one is the only one.
    refine ⟨some h.prompt.next, hi.announce, ?_, fun _ => rfl, fun hs => ?_, ?_, ?_, ?_⟩
    · intro c hc
      simp only [changes_append, changes_status, changes_nil, List.mem_append,
        List.mem_singleton] at hc
      rcases hc with hc | rfl
      · exact Nat.lt_succ_of_lt (hi.fresh c hc)
      · exact Nat.lt_succ_self _
    · exact absurd (hlive.symm.trans hs) (by decide)
    · simp [hi.readers_eq_nil]
    · intro x hx
      simpa [hi.readers_eq_nil] using Nat.ne_of_lt (hi.known x hx)
    · exact fun x hx => Nat.lt_succ_of_lt (hi.known x hx)
  | refuse hlive hidle hline reason =>
    obtain rfl := hi.eq_none hlive hidle
    -- The stream grows by the whole life of a task at once.
    refine ⟨none, ?_, ?_, fun _ => hi.current hlive, hi.halted, hi.reading, hi.apart, ?_⟩
    · have hfailed := (hi.announce.refusal reason).finish (f := .failed) rfl
      simpa using hfailed
    · intro c hc
      rcases mem_changes_refuse.1 hc with hc | rfl | rfl
      · exact Nat.lt_succ_of_lt (hi.fresh c hc)
      · exact Nat.lt_succ_self _
      · exact Nat.lt_succ_self _
    · exact fun x hx => Nat.lt_succ_of_lt (hi.known x hx)
  | @forward r hlive hrun bytes =>
    obtain rfl := hi.eq_some hrun
    exact ⟨some r.task, hi.orderly, hi.fresh, fun _ => rfl,
      fun hs => absurd (hlive.symm.trans hs) (by decide), hi.reading, hi.apart, hi.known⟩
  | resize cols rows =>
    exact ⟨o, hi.orderly, hi.fresh, hi.current, hi.halted, hi.reading, hi.apart, hi.known⟩
  | stop =>
    exact ⟨o, hi.orderly, hi.fresh, fun hs => by simp at hs, fun _ => rfl, hi.reading, hi.apart,
      hi.known⟩
  | @write t hreads bytes =>
    obtain rfl := hi.reading t hreads
    exact ⟨some t, hi.orderly.output bytes, by simpa using hi.fresh, hi.current, hi.halted,
      hi.reading, hi.apart, hi.known⟩
  | @exit t hreads success =>
    obtain rfl := hi.reading t hreads
    refine ⟨some t, hi.orderly, hi.fresh, hi.current, hi.halted, ?_, ?_, ?_⟩
    · exact fun n hn => hi.reading n (List.mem_of_mem_filter hn)
    · intro x hx
      rcases List.mem_append.1 hx with hx | hx
      · exact fun hn => hi.apart x hx (List.mem_of_mem_filter hn)
      · simp [List.mem_singleton.1 hx]
    · intro x hx
      rcases List.mem_append.1 hx with hx | hx
      · exact hi.known x hx
      · rw [List.mem_singleton.1 hx]
        exact hi.lt_next
  | @finish r success hrun hexit =>
    obtain rfl := hi.eq_some hrun
    refine ⟨none, ?_, ?_, fun _ => rfl, fun _ => rfl, fun t ht => ?_, hi.apart, hi.known⟩
    · simpa using hi.orderly.finish (isFinal_finalStatus r success)
    · intro c hc
      rcases mem_changes_finish.1 hc with hc | rfl
      · exact hi.fresh c hc
      · exact hi.lt_next
    · -- The task that is read would be the one that runs, and that one has ended.
      obtain rfl := Option.some.inj (hi.reading t ht)
      exact absurd ht (hi.apart _ hexit)
  | skip n =>
    exact ⟨o, hi.orderly, fun c hc => Nat.lt_add_right n (hi.fresh c hc), hi.current, hi.halted,
      hi.reading, hi.apart, fun x hx => Nat.lt_add_right n (hi.known x hx)⟩

/-! ## How tasks end -/

/-- Whether a task was interrupted while it ran. -/
def isInterrupted (keys : List (Prompt × UInt8)) (task : Nat) : Bool := keys.any (interrupts task)

/-- The status with which a task should end. -/
def verdict (keys : List (Prompt × UInt8)) (exits : List (Nat × Bool)) (task : Nat) : Status :=
  if isInterrupted keys task then .killed
  else if exits.contains (task, true) then .done
  else .failed

/-- Tasks ended as they should. -/
structure IsJudged (h : History) : Prop where
  /-- A program ends once. -/
  single : ∀ t a b, (t, a) ∈ h.exits → (t, b) ∈ h.exits → a = b
  /-- What was interrupted was started. -/
  begun : ∀ t, isInterrupted h.keys t = true → t < h.prompt.next
  /-- The task that runs is known to be interrupted or not. -/
  noted : ∀ r, h.prompt.running = some r → r.interrupted = isInterrupted h.keys r.task
  /-- Every task ended with its status. -/
  judged : ∀ t f, (t, Status.running, f) ∈ changes h.stream → f = verdict h.keys h.exits t

lemma isJudged_start (first : Nat) : IsJudged (History.start first) where
  single := by simp [History.start]
  begun := by simp [History.start, isInterrupted]
  noted := by simp [History.start, Prompt.start]
  judged := by simp [History.start, Prompt.start, reports]

variable {p : Prompt} {keys : List (Prompt × UInt8)} {exits : List (Nat × Bool)} {b : UInt8}
  {bytes : Bytes} {r : Running} {success : Bool}

/-- A key at the prompt interrupts nothing. -/
lemma isInterrupted_snoc (hidle : p.running = none) (t : Nat) :
    isInterrupted (keys ++ [(p, b)]) t = isInterrupted keys t := by
  simp [isInterrupted, interrupts, hidle]

/-- Bytes for the task that runs may interrupt this task, and no other. -/
lemma isInterrupted_append (hrun : p.running = some r) (t : Nat) :
    isInterrupted (keys ++ bytes.map fun b => (p, b)) t =
      (isInterrupted keys t || (r.task == t && bytes.any (Key.ofByte · == .interrupt))) := by
  rw [isInterrupted, List.any_append, List.any_map]
  rcases ht : r.task == t with _ | _ <;>
    simp [isInterrupted, interrupts, hrun, ht, Function.comp_def]

lemma verdict_snoc (hidle : p.running = none) (t : Nat) :
    verdict (keys ++ [(p, b)]) exits t = verdict keys exits t := by
  rw [verdict, isInterrupted_snoc hidle, verdict]

/-- Bytes for a task are nothing to other tasks, -/
lemma verdict_append (hrun : p.running = some r) (hother : r.task ≠ t) :
    verdict (keys ++ bytes.map fun b => (p, b)) exits t = verdict keys exits t := by
  simp [verdict, isInterrupted_append hrun, hother]

/-- and so is the end of its program. -/
lemma verdict_exit {n : Nat} (hother : n ≠ t) :
    verdict keys (exits ++ [(n, success)]) t = verdict keys exits t := by
  simp [verdict, hother.symm]

namespace IsJudged

/-- A task that was not started yet was not interrupted. -/
lemma isInterrupted_next (hj : IsJudged h) : isInterrupted h.keys h.prompt.next = false := by
  rw [← Bool.not_eq_true]
  exact fun ht => absurd (hj.begun _ ht) (Nat.lt_irrefl _)

/-- A task that cannot be started fails. -/
lemma verdict_next (hj : IsJudged h) (hi : IsOrdered o h) :
    verdict h.keys h.exits h.prompt.next = .failed := by
  have hexit : (h.prompt.next, true) ∉ h.exits :=
    fun hx => absurd (hi.known _ hx) (Nat.lt_irrefl _)
  simp [verdict, hj.isInterrupted_next, hexit]

/-- The task that runs ends with the status with which it should. -/
lemma finalStatus_eq (hj : IsJudged h) (hrun : h.prompt.running = some r)
    (hexit : (r.task, success) ∈ h.exits) :
    finalStatus r success = verdict h.keys h.exits r.task := by
  have hsuccess : h.exits.contains (r.task, true) = success := by
    rw [Bool.eq_iff_iff, List.contains_iff_mem]
    constructor
    · exact fun hx => hj.single _ _ _ hexit hx
    · rintro rfl
      exact hexit
  simp only [finalStatus, verdict, hj.noted r hrun, hsuccess]

/-- After a key at the prompt only the task that begins and what is told are to be looked at. -/
lemma after_key (hj : IsJudged h) (hidle : h.prompt.running = none)
    (hkeys : h'.keys = h.keys ++ [(h.prompt, b)]) (hexits : h'.exits = h.exits)
    (hnext : h.prompt.next ≤ h'.prompt.next)
    (hnoted : ∀ r, h'.prompt.running = some r → r.interrupted = isInterrupted h.keys r.task)
    (hjudged : ∀ t f, (t, Status.running, f) ∈ changes h'.stream →
      f = verdict h.keys h.exits t) : IsJudged h' where
  single := by
    rw [hexits]
    exact hj.single
  begun t ht := by
    rw [hkeys, isInterrupted_snoc hidle] at ht
    exact Nat.lt_of_lt_of_le (hj.begun t ht) hnext
  noted r hrun := by
    rw [hkeys, isInterrupted_snoc hidle]
    exact hnoted r hrun
  judged t f hf := by
    rw [hkeys, hexits, verdict_snoc hidle]
    exact hjudged t f hf

end IsJudged

lemma Move.isJudged (hm : Move h h') (hi : IsOrdered o h) (hj : IsJudged h) : IsJudged h' := by
  cases hm with
  | edit hlive hidle hblank hline hbreak line =>
    exact hj.after_key hidle rfl rfl (Nat.le_refl _) hj.noted hj.judged
  | echo hlive hidle bytes =>
    exact ⟨hj.single, hj.begun, hj.noted, by simpa using hj.judged⟩
  | reprompt hlive hidle hasks =>
    exact hj.after_key hidle rfl rfl (Nat.le_refl _) hj.noted (by simpa using hj.judged)
  | launch hlive hidle hline =>
    refine hj.after_key hidle rfl rfl (Nat.le_succ _) (fun r hr => ?_) (by simpa using hj.judged)
    obtain rfl := Option.some.inj hr
    exact hj.isInterrupted_next.symm
  | refuse hlive hidle hline reason =>
    refine hj.after_key hidle rfl rfl (Nat.le_succ _) hj.noted fun t f hf => ?_
    rcases mem_changes_refuse.1 hf with hf | hf | hf
    · exact hj.judged t f hf
    · cases hf
    · cases hf
      exact (hj.verdict_next hi).symm
  | @forward r hlive hrun bytes =>
    obtain rfl := hi.eq_some hrun
    refine ⟨hj.single, fun t ht => ?_, fun r' hr => ?_, fun t f hf => ?_⟩
    · rw [isInterrupted_append hrun, Bool.or_eq_true, Bool.and_eq_true, beq_iff_eq] at ht
      rcases ht with ht | ⟨rfl, _⟩
      · exact hj.begun t ht
      · exact hi.lt_next
    · obtain rfl := Option.some.inj hr
      simp [isInterrupted_append hrun, hj.noted r hrun]
    · -- A task that has ended is not the one that runs.
      have hother : r.task ≠ t := by
        rintro rfl
        exact hi.orderly.isOpen.2 f hf
      rw [verdict_append hrun hother]
      exact hj.judged t f hf
  | resize cols rows => exact ⟨hj.single, hj.begun, hj.noted, hj.judged⟩
  | stop => exact ⟨hj.single, hj.begun, fun r hr => by simp at hr, hj.judged⟩
  | write hreads bytes => exact ⟨hj.single, hj.begun, hj.noted, by simpa using hj.judged⟩
  | @exit t hreads success =>
    have hnew : ∀ a, (t, a) ∉ h.exits := fun a hx => hi.apart _ hx hreads
    refine ⟨fun n a b ha hb => ?_, hj.begun, hj.noted, fun n f hf => ?_⟩
    · simp only [List.mem_append, List.mem_singleton, Prod.mk.injEq] at ha hb
      rcases ha with ha | ⟨rfl, rfl⟩
      · rcases hb with hb | ⟨rfl, rfl⟩
        · exact hj.single n a b ha hb
        · exact absurd ha (hnew a)
      · rcases hb with hb | ⟨_, rfl⟩
        · exact absurd hb (hnew b)
        · rfl
    · -- A task that has ended is not read.
      have hother : t ≠ n := by
        rintro rfl
        obtain rfl := hi.reading t hreads
        exact hi.orderly.isOpen.2 f hf
      rw [verdict_exit hother]
      exact hj.judged n f hf
  | @finish r success hrun hexit =>
    refine ⟨hj.single, hj.begun, fun r' hr => by simp at hr, fun t f hf => ?_⟩
    rcases mem_changes_finish.1 hf with hf | hf
    · exact hj.judged t f hf
    · cases hf
      exact hj.finalStatus_eq hrun hexit
  | skip n =>
    exact ⟨hj.single, fun t ht => Nat.lt_add_right n (hj.begun t ht), hj.noted, hj.judged⟩

/-! ## Why there is a prompt, and why there is a task -/

/-- Everything has its reason. -/
structure IsCounted (h : History) : Prop where
  /-- Besides the first prompt there is one for each blank line, each interrupt at the prompt and
  each task that ended. -/
  prompts : h.stream.count (.told .ready) =
    1 + h.keys.countP isBlankLine + h.keys.countP isBreak + h.stream.countP Entry.isFinal
  /-- There is a task for each other line. -/
  tasks : (changes h.stream).countP (·.2.1 == .new) = h.keys.countP isCommandLine

lemma isCounted_start (first : Nat) : IsCounted (History.start first) where
  prompts := by simp [History.start, Prompt.start, reports]
  tasks := by simp [History.start, Prompt.start, reports]

lemma Move.isCounted (hm : Move h h') (hc : IsCounted h) : IsCounted h' := by
  have hprompts := hc.prompts
  have htasks := hc.tasks
  cases hm with
  | edit hlive hidle hblank hline hbreak line =>
    exact ⟨by simpa [hblank, hbreak] using hprompts, by simpa [hline] using htasks⟩
  | echo hlive hidle bytes => exact ⟨by simpa using hprompts, by simpa using htasks⟩
  | @reprompt b hlive hidle hasks =>
    refine ⟨?_, by simpa [isCommandLine_of_asks hasks] using htasks⟩
    rcases hbreak : isBreak (h.prompt, b) with _ | _
    · simp [hasks, hbreak, hprompts]
      omega
    · simp [hasks, hbreak, hprompts]
      omega
  | launch hlive hidle hline =>
    obtain ⟨hblank, hbreak⟩ := eq_false_of_isCommandLine hline
    exact ⟨by simpa [hblank, hbreak, Status.isFinal] using hprompts, by simp [hline, htasks]⟩
  | refuse hlive hidle hline reason =>
    obtain ⟨hblank, hbreak⟩ := eq_false_of_isCommandLine hline
    refine ⟨?_, by simp [hline, htasks]⟩
    simp [hblank, hbreak, hprompts, List.countP_cons, Status.isFinal]
    omega
  | @forward r hlive hrun bytes =>
    have hnone : (bytes.map fun b => (h.prompt, b)).countP isBlankLine = 0 ∧
        (bytes.map fun b => (h.prompt, b)).countP isBreak = 0 ∧
        (bytes.map fun b => (h.prompt, b)).countP isCommandLine = 0 := by
      simp [isBlankLine, isBreak, isCommandLine, hrun]
    exact ⟨by simpa [hnone] using hprompts, by simpa [hnone] using htasks⟩
  | resize cols rows => exact ⟨hprompts, htasks⟩
  | stop => exact ⟨hprompts, htasks⟩
  | write hreads bytes => exact ⟨by simpa using hprompts, by simpa using htasks⟩
  | exit hreads success => exact ⟨hprompts, htasks⟩
  | @finish r success hrun hexit =>
    refine ⟨?_, by simpa using htasks⟩
    simp [isFinal_finalStatus, hprompts]
    omega
  | skip n => exact ⟨hprompts, htasks⟩

/-! ## Runs -/

/-- The protocol is kept. -/
structure IsSound (h : History) : Prop where
  /-- The stream is orderly. -/
  ordered : ∃ o, IsOrdered o h
  /-- Tasks ended as they should. -/
  judged : IsJudged h
  /-- Every prompt and every task has its reason. -/
  counted : IsCounted h

lemma isSound_start (first : Nat) : IsSound (History.start first) :=
  ⟨⟨none, isOrdered_start first⟩, isJudged_start first, isCounted_start first⟩

lemma Move.isSound (hm : Move h h') (hs : IsSound h) : IsSound h' := by
  obtain ⟨o, hi⟩ := hs.ordered
  exact ⟨hm.isOrdered hi, hm.isJudged hi hs.judged, hm.isCounted hs.counted⟩

/-- A prompt that has stopped tells of no changes. -/
lemma Move.stopped (hm : Move h h') (hs : IsSound h) (hstop : h.prompt.stopped = true) :
    h'.prompt.stopped = true ∧ changes h'.stream = changes h.stream := by
  obtain ⟨o, hi⟩ := hs.ordered
  cases hm with
  | edit hlive | echo hlive | reprompt hlive | launch hlive | refuse hlive | forward hlive =>
    exact absurd (hlive.symm.trans hstop) (by decide)
  | finish hrun => exact absurd (hi.halted hstop) (by simp [hrun])
  | stop => exact ⟨rfl, rfl⟩
  | write => exact ⟨hstop, by simp⟩
  | resize | exit | skip => exact ⟨hstop, rfl⟩

lemma isSound_run (hs : IsSound h) (ops : List Operation) : IsSound (h.run ops) := by
  have hmoves := moves_run h ops
  generalize h.run ops = h' at hmoves ⊢
  induction hmoves with
  | refl => exact hs
  | tail _ hm ih => exact hm.isSound ih

lemma changes_run_of_stopped (hs : IsSound h) (hstop : h.prompt.stopped = true)
    (ops : List Operation) : changes (h.run ops).stream = changes h.stream := by
  have hmoves := moves_run h ops
  generalize h.run ops = h' at hmoves ⊢
  have hall : IsSound h' ∧ h'.prompt.stopped = true ∧ changes h'.stream = changes h.stream := by
    induction hmoves with
    | refl => exact ⟨hs, hstop, rfl⟩
    | tail _ hm ih =>
      obtain ⟨hsound, hstopped, hchanges⟩ := ih
      obtain ⟨hstill, hsame⟩ := hm.stopped hsound hstopped
      exact ⟨hm.isSound hsound, hstill, hsame.trans hchanges⟩
  exact hall.2.2

/-- To stop the prompt is nothing that it tells of. -/
lemma step_shutdown (h : History) (starts : Launcher) :
    (h.step (.take .shutdown starts)).prompt.stopped = true ∧
      (h.step (.take .shutdown starts)).stream = h.stream := by
  simp only [History.step, react]
  rcases hstop : h.prompt.stopped with _ | _
  · rcases hrun : h.prompt.running with _ | r <;> simp [History.after, reports]
  · simp [History.after, reports, hstop]

/-- **The protocol of a prompt.**  Whatever happens, the session first gets a prompt.  The changes
of status are those of tasks with growing numbers, each of which goes from new to running and from
there to a final status before the next one begins; the last one may not have ended.  There is a
task for each line that is not blank.  What it writes, or the reason why it could not be started,
comes after it was announced and before its end.  It ends as killed if it was interrupted while it
ran, otherwise as done if its program ended with success, and otherwise as failed, and a prompt
follows at once.  Besides the first prompt and these there is one for each blank line and each
interrupt at the prompt, and no other.  After the prompt is told to stop, no change of status
follows. -/
theorem run_events (first : Nat) (ops : List Operation) :
    let h := (History.start first).run ops
    h.events.head? = some .ready ∧
      (∃ (ended : List (Nat × Status)) (current : Option Nat),
        changes h.stream = ended.flatMap lifetime ++ current.toList.map opening ∧
          (∀ task ∈ ended, task.2.isFinal = true) ∧
          (ended.map Prod.fst ++ current.toList).Pairwise (· < ·)) ∧
      (changes h.stream).countP (·.2.1 == .new) = h.keys.countP isCommandLine ∧
      (∀ before e t, before ++ [e] <+: h.stream → e.task? = some t →
        opening t ∈ changes before ∧ ∀ f, (t, Status.running, f) ∉ changes before) ∧
      (∀ t f, (t, Status.running, f) ∈ changes h.stream → f = verdict h.keys h.exits t) ∧
      (∀ before e, before ++ [e] <+: h.stream → e.isFinal = true →
        before ++ [e, .told .ready] <+: h.stream) ∧
      h.stream.count (.told .ready) =
        1 + h.keys.countP isBlankLine + h.keys.countP isBreak + h.stream.countP Entry.isFinal ∧
      ∀ earlier starts later, ops = earlier ++ .take .shutdown starts :: later →
        changes h.stream = changes ((History.start first).run earlier).stream := by
  intro h
  have hs : IsSound h := isSound_run (isSound_start first) ops
  obtain ⟨o, hi⟩ := hs.ordered
  obtain ⟨ended, hended⟩ := hi.orderly.changes_eq
  refine ⟨?_, ⟨ended, o, hended⟩, hs.counted.tasks, fun before e t => hi.orderly.within,
    hs.judged.judged, fun before e => hi.orderly.ready_after, hs.counted.prompts, ?_⟩
  · rw [History.events, List.head?_map, hi.orderly.head?_eq]
    rfl
  · intro earlier starts later hops
    have hstart := isSound_run (isSound_start first) earlier
    obtain ⟨hstop, hstream⟩ := step_shutdown ((History.start first).run earlier) starts
    have hrest := changes_run_of_stopped (isSound_run hstart [.take .shutdown starts]) hstop later
    have hh : h =
        (((History.start first).run earlier).step (.take .shutdown starts)).run later := by
      simp only [h, hops, History.run, List.foldl_append, List.foldl_cons]
    rw [hh, ← hstream]
    exact hrest

/-- A blank line, a line that cannot be started, and a task that is interrupted while it runs. -/
example :
    ((History.start 7).run [.take (.input (utf8 "\nx\n")) fun _ _ => .error (.engine "no"),
        .take (.input (utf8 "ls\n\x03")) fun _ _ => .ok (), .write 8 (utf8 "a"), .exit 8 true,
        .notice 8 true]).stream =
      [.told .ready, .told (.echo (utf8 "\r\n")), .told .ready, .told (.echo (utf8 "x\r\n")),
        .told (.status 7 .new .running),
        .told (.refusal 7 (utf8 "process engine failure: no\r\n")),
        .told (.status 7 .running .failed), .told .ready, .told (.echo (utf8 "ls\r\n")),
        .told (.status 8 .new .running), .output 8 (utf8 "a"),
        .told (.status 8 .running .killed), .told .ready] := by
  decide +kernel

end SharedTerminal.Prompt
