import SharedTerminal.Proofs.Session.Commands
import SharedTerminal.Proofs.Session.Unlogged

/-!
# The output log

A session that keeps a log opens it when its engine starts.  From then on the log is sent every
chunk of output and every completion marker, on the two ways on which observers are sent them, until
it refuses one or the session ends.

A log writer takes the chunks out while others come in, and may go away at any time because the file
cannot be written.  A `Deed` is an operation on the session or a step of the log writer.  What the
log accepted is what the log writer took so far followed by what still waits for it
(`logAccepted`), and `exists_log_act` is what one deed adds to that.

The main statement, `log_is_complete_and_transparent`, also compares the session with one that keeps
no log.
-/

namespace SharedTerminal.Session

/-- What can happen to a session and its log. -/
inductive Deed where
  /-- Something is done to the session. -/
  | does (op : Operation)
  /-- The log writer takes chunks, at most so many. -/
  | collects (count : Nat)
  /-- The log writer goes away. -/
  | quits

variable {s : Session} {given : Bool} {op : Operation} {d : Deed} {log : Channel}
  {deeds more : List Deed}

/-! ## Deeds -/

/-- The session after a deed. -/
def act (s : Session) : Deed → Session
  | .does op => s.step op
  | .collects count => { s with log := s.log.map fun log => (log.receive (some count)).1 }
  | .quits => { s with log := s.log.map Channel.dropReceiver }

/-- The session after a list of deeds. -/
def actAll (s : Session) (deeds : List Deed) : Session := deeds.foldl act s

/-- The item that a deed is about. -/
def Deed.item? : Deed → Option Item
  | .does op => op.item?
  | _ => none

/-- What a session produces in a deed. -/
def issued (s : Session) : Deed → List Item
  | .does op => (s.produced op).toList
  | _ => []

/-- What a session produces in a list of deeds, in order. -/
def issuedIn (s : Session) : List Deed → List Item
  | [] => []
  | d :: deeds => s.issued d ++ issuedIn (s.act d) deeds

/-- The chunks that the log writer takes in a deed. -/
def collected (s : Session) : Deed → List Bytes
  | .does .flushLog => s.log.elim [] fun log => (log.receive none).2.chunks
  | .collects count => s.log.elim [] fun log => (log.receive (some count)).2.chunks
  | _ => []

/-- The chunks that the log writer takes in a list of deeds. -/
def collectedIn (s : Session) : List Deed → List Bytes
  | [] => []
  | d :: deeds => s.collected d ++ collectedIn (s.act d) deeds

/-- Every chunk that the log has accepted by the end of a list of deeds: those that the log writer
took and those that wait for it. -/
def logAccepted (s : Session) (deeds : List Deed) : List Bytes :=
  s.collectedIn deeds ++ (s.actAll deeds).log.elim [] Channel.queue

/-- The log refuses what the session produces in a deed. -/
def Rejects (s : Session) (d : Deed) : Prop :=
  s.issued d ≠ [] ∧ ∃ log, s.log = some log ∧ log.accepts = false

/-- A log with a queue at first accepts in a list of deeds what the session produces until it
refuses some of it, and nothing after that. -/
def IsLogged (queue : List Bytes) (s : Session) (deeds : List Deed) : Prop :=
  ∃ during rest, deeds = during ++ rest ∧
    (∀ pre d post, during = pre ++ d :: post → ¬ Rejects (s.actAll pre) d) ∧
    (∀ d post, rest = d :: post → Rejects (s.actAll during) d) ∧
    logAccepted s deeds = queue ++ (s.issuedIn during).map Item.bytes

@[simp] lemma actAll_nil (s : Session) : s.actAll [] = s := rfl

@[simp] lemma actAll_cons (s : Session) (d : Deed) (deeds : List Deed) :
    s.actAll (d :: deeds) = (s.act d).actAll deeds := rfl

lemma actAll_append (s : Session) (deeds more : List Deed) :
    s.actAll (deeds ++ more) = (s.actAll deeds).actAll more :=
  List.foldl_append

lemma collectedIn_append (s : Session) (deeds more : List Deed) :
    s.collectedIn (deeds ++ more) = s.collectedIn deeds ++ (s.actAll deeds).collectedIn more := by
  induction deeds generalizing s with
  | nil => rfl
  | cons d deeds ih => simp [collectedIn, ih]

lemma logAccepted_cons (s : Session) (d : Deed) (deeds : List Deed) :
    s.logAccepted (d :: deeds) = s.collected d ++ (s.act d).logAccepted deeds := by
  simp [logAccepted, collectedIn]

/-! ## The log in one deed -/

/-- What a deed does to the log of a session that goes on. -/
def Deed.tend : Deed → Channel → Channel
  | .does .flushLog, log => (log.receive none).1
  | .collects count, log => (log.receive (some count)).1
  | .quits, log => log.dropReceiver
  | .does op, log => op.item?.elim log fun item => logChunk item.bytes log

lemma logChunk_queue (chunk : Bytes) (log : Channel) :
    (logChunk chunk log).queue =
      log.queue ++ if log.senderHeld && log.accepts then [chunk] else [] := by
  rcases hh : log.senderHeld with _ | _
  · simp [logChunk, hh]
  · rcases ha : log.accepts with _ | _
    · simp [logChunk, hh, Channel.send, ha, Channel.release]
    · simp [logChunk, hh, Channel.send, ha]

lemma logChunk_senderHeld (chunk : Bytes) (log : Channel) :
    (logChunk chunk log).senderHeld = (log.senderHeld && log.accepts) := by
  rcases hh : log.senderHeld with _ | _
  · simp [logChunk, hh]
  · rcases ha : log.accepts with _ | _
    · simp [logChunk, hh, Channel.send, ha, Channel.release]
    · simp [logChunk, hh, Channel.send, ha]

/-- A deed adds its item to the log if there is room, and takes out what the log writer takes. -/
lemma collected_append_tend (hlog : s.log = some log) (d : Deed) :
    s.collected d ++ (d.tend log).queue =
      log.queue ++ if log.senderHeld && log.accepts then d.item?.toList.map Item.bytes else [] := by
  cases d with
  | collects count =>
    simpa [collected, hlog, Deed.tend, Deed.item?] using chunks_append_receive log (some count)
  | quits => simp [collected, Deed.tend, Deed.item?, Channel.dropReceiver]
  | does op =>
    cases op with
    | flushLog =>
      simpa [collected, hlog, Deed.tend, Deed.item?, Operation.item?] using
        chunks_append_receive log none
    | write chunk =>
      simp [collected, Deed.tend, Deed.item?, Operation.item?, logChunk_queue, Item.bytes]
    | changeStatus change =>
      rcases hf : change.isFinal with _ | _
      · simp [collected, Deed.tend, Deed.item?, Operation.item?, hf]
      · simp [collected, Deed.tend, Deed.item?, Operation.item?, hf, logChunk_queue, Item.bytes]
    | _ => simp [collected, Deed.tend, Deed.item?, Operation.item?]

/-- The session holds on to its log unless an item is refused. -/
lemma tend_senderHeld (d : Deed) (log : Channel) :
    (d.tend log).senderHeld = (log.senderHeld && (d.item?.isNone || log.accepts)) := by
  cases d with
  | collects count => simp [Deed.tend, Deed.item?, Channel.receive]
  | quits => simp [Deed.tend, Deed.item?, Channel.dropReceiver]
  | does op =>
    cases op with
    | flushLog => simp [Deed.tend, Deed.item?, Operation.item?, Channel.receive]
    | write chunk => simp [Deed.tend, Deed.item?, Operation.item?, logChunk_senderHeld]
    | changeStatus change =>
      rcases hf : change.isFinal with _ | _
      · simp [Deed.tend, Deed.item?, Operation.item?, hf]
      · simp [Deed.tend, Deed.item?, Operation.item?, hf, logChunk_senderHeld]
    | _ => simp [Deed.tend, Deed.item?, Operation.item?]

/-- Only the log writer does anything else with the log than sending it an item. -/
lemma tend_does (hop : op ≠ .flushLog) (log : Channel) :
    (Deed.does op).tend log = op.item?.elim log fun item => logChunk item.bytes log := by
  cases op with
  | flushLog => exact absurd rfl hop
  | _ => rfl

lemma map_tend_of_item?_eq_none (hitem : op.item? = none) (hop : op ≠ .flushLog)
    (o : Option Channel) : o.map (Deed.does op).tend = o := by
  have htend : (Deed.does op).tend = id := by
    funext log
    rw [tend_does hop, hitem, Option.elim_none, id]
  rw [htend, Option.map_id, id]

/-- A log that was let go is sent nothing. -/
lemma map_tend_of_unheld {o : Option Channel} (hheld : ∀ log ∈ o, log.senderHeld = false)
    (hop : op ≠ .flushLog) : o.map (Deed.does op).tend = o := by
  rcases o with _ | log
  · rfl
  · have hgone : log.senderHeld = false := hheld log rfl
    rw [Option.map_some, tend_does hop]
    rcases op.item? with _ | item
    · rfl
    · simp [logChunk, hgone]

/-- What is in transit for the others does not pass through the log. -/
lemma log_step_of_isQuiet (hq : op.isQuiet = true) :
    (s.step op).log = s.log.map (Deed.does op).tend := by
  cases op with
  | submit name bytes | resize name cols rows =>
    rw [map_tend_of_item?_eq_none rfl (by simp)]
    simp only [step, perform, submit, resize, request]
    split
    · rfl
    · split <;> rfl
  | receive k max =>
    rw [map_tend_of_item?_eq_none rfl (by simp)]
    simp only [step, perform, receive]
    split
    · rfl
    · split <;> rfl
  | dropReceiver k =>
    rw [map_tend_of_item?_eq_none rfl (by simp)]
    simp only [step, perform, dropReceiver]
    split <;> rfl
  | takeCommands =>
    rw [map_tend_of_item?_eq_none rfl (by simp)]
    simp only [step, perform, takeCommands]
    split
    · rfl
    · split <;> rfl
  | dropProcess =>
    rw [map_tend_of_item?_eq_none rfl (by simp)]
    simp only [step, perform, dropProcess]
    split <;> rfl
  | listen n | dropListener n => exact (map_tend_of_item?_eq_none rfl (by simp) s.log).symm
  | flushLog =>
    simp only [step, perform, flushLog]
    rcases hlog : s.log with _ | log
    · simp [hlog]
    · simp [Deed.tend]
  | _ => simp [Operation.isQuiet] at hq

/-- The other operations send the log their item, unless they start an engine. -/
lemma log_moved (hlive : s.lifecycle.destroyed = false) (hs : s.starts op = false)
    (hq : op.isQuiet = false) (hop : op ≠ .shutdown) :
    (s.moved op).log = s.log.map (Deed.does op).tend := by
  cases op with
  | attachDriver c startup =>
    rw [map_tend_of_item?_eq_none rfl (by simp)]
    rw [starts_of_live hlive] at hs
    rcases hp : s.lifecycle.driver with _ | _ | _
    · rcases ho : startup.outcome with e | u
      · simp [moved, hp, ho]
      · simp [hp, ho, Except.isOk, Except.toBool] at hs
    · simp [moved, hp, seatObserver]
    · simp [moved, hp, driven, seatDriver]
  | attachObserver c | unsubscribe n => exact (map_tend_of_item?_eq_none rfl (by simp) s.log).symm
  | detachDriver name | detachObserver name =>
    rw [map_tend_of_item?_eq_none rfl (by simp)]
    simp only [moved]
    split <;> rfl
  | subscribe =>
    rw [map_tend_of_item?_eq_none rfl (by simp)]
    simp only [moved, step, perform, subscribe]
    split <;> rfl
  | write chunk =>
    simp only [moved]
    split <;> rfl
  | changeStatus change =>
    rcases hf : change.isFinal with _ | _
    · rw [map_tend_of_item?_eq_none (by simp [Operation.item?, hf]) (by simp)]
      simp [moved, announced, hf]
    · have htend : (Deed.does (.changeStatus change)).tend =
          logChunk (utf8 change.after.completionMarker) := by
        funext log
        simp [Deed.tend, Operation.item?, hf, Item.bytes]
      simp [moved, announced, hf, htend]
  | shutdown => exact absurd rfl hop
  | _ => simp [Operation.isQuiet] at hq

lemma log_prepared (hlive : s.lifecycle.destroyed = false) (hs : s.starts op = false) :
    (s.prepared op).log = s.log.map (Deed.does op).tend := by
  by_cases hop : op = .shutdown
  · subst hop
    exact (map_tend_of_item?_eq_none rfl (by simp) s.log).symm
  · rcases hq : op.isQuiet with _ | _
    · rw [prepared_of_ne hop]
      exact log_moved hlive hs hq hop
    · rw [prepared_of_isQuiet hq]
      exact log_step_of_isQuiet hq

/-! ## One deed -/

/-- What the log writer does changes nothing but what is in transit. -/
lemma alike_withLog (s : Session) {f : Channel → Channel}
    (hf : ∀ log, (f log).senderHeld = log.senderHeld) :
    s.Alike { s with log := s.log.map f } := by
  refine { Alike.refl s with log := ?_ }
  rw [Option.map_map]
  exact congrArg (Option.map · s.log) (funext hf)

lemma IsSound.act (h : s.IsSound given) (d : Deed) : (s.act d).IsSound given := by
  cases d with
  | does op => exact h.step op
  | collects count =>
    have halike : s.Alike (s.act (.collects count)) := alike_withLog s fun _ => rfl
    exact h.imp halike.isOpen halike.isClosed
  | quits =>
    have halike : s.Alike (s.act .quits) := alike_withLog s fun _ => rfl
    exact h.imp halike.isOpen halike.isClosed

lemma IsClosed.act (h : s.IsClosed given) (d : Deed) : (s.act d).IsClosed given := by
  refine (h.isSound.act d).isClosed ?_
  cases d with
  | does op => exact (h.step op).marked
  | _ => exact h.marked

lemma IsSound.actAll (h : s.IsSound given) (deeds : List Deed) :
    (s.actAll deeds).IsSound given := by
  induction deeds generalizing s with
  | nil => exact h
  | cons d deeds ih => exact ih (h.act d)

/-- Whether a deed starts the engine. -/
def startsBy (s : Session) : Deed → Bool
  | .does op => s.starts op
  | _ => false

/-- An engine that was started is not forgotten. -/
lemma IsSound.isSome_process_act (h : s.IsSound given) (d : Deed) :
    (s.act d).process.isSome = (s.startsBy d || s.process.isSome) := by
  cases d with
  | does op => exact h.isSome_process_step op
  | _ => rfl

lemma IsSound.isSome_process_actAll (h : s.IsSound given) (hsome : s.process.isSome = true)
    (deeds : List Deed) : (s.actAll deeds).process.isSome = true := by
  induction deeds generalizing s with
  | nil => exact hsome
  | cons d deeds ih =>
    refine ih (h.act d) ?_
    rw [h.isSome_process_act, hsome, Bool.or_true]

lemma IsSound.startsBy_eq_false (h : s.IsSound given) (hsome : s.process.isSome = true)
    (d : Deed) : s.startsBy d = false := by
  cases d with
  | does op =>
    rw [startsBy, ← Bool.not_eq_true]
    intro hs
    rw [h.process_eq_none_of_starts hs] at hsome
    exact absurd hsome (by decide)
  | _ => rfl

/-- **The log in one deed** that does not start the engine: it is tended, and let go if the session
ends. -/
theorem IsSound.log_act (h : s.IsSound given) (hs : s.startsBy d = false) :
    (s.act d).log = s.log.map fun log =>
      if (s.act d).isDestroyed then (d.tend log).release else d.tend log := by
  rcases h with h | h
  · rcases hd : (s.act d).isDestroyed with _ | _
    · cases d with
      | does op =>
        have hstep : s.step op = s.prepared op := by
          rw [h.step_eq_prepared op, show (s.step op).isDestroyed = false from hd]
          rfl
        simpa [Session.act, hstep] using log_prepared h.live hs
      | _ => rfl
    · cases d with
      | does op =>
        have hstep : s.step op = (s.prepared op).concluded := by
          rw [h.step_eq_prepared op, show (s.step op).isDestroyed = true from hd]
          rfl
        rw [Session.act, hstep, concluded, dismantle, log_prepared h.live hs]
        simp [Function.comp_def]
      | collects | quits => exact absurd (h.unmarked.symm.trans hd) (by decide)
  · -- The log was let go before, so it is sent nothing and letting it go again changes nothing.
    have hmark : (s.act d).isDestroyed = true := (h.act d).marked
    have hlog : (s.act d).log = s.log.map d.tend := by
      cases d with
      | does op =>
        rcases hq : op.isQuiet with _ | _
        · have hop : op ≠ .flushLog := fun heq => by simp [heq, Operation.isQuiet] at hq
          rw [Session.act, h.step_eq_self hq, map_tend_of_unheld h.unlogged hop]
        · exact log_step_of_isQuiet hq
      | _ => rfl
    rw [hlog, hmark]
    refine Option.map_congr fun log hmem => ?_
    have hunheld : (d.tend log).senderHeld = false := by
      rw [tend_senderHeld, h.unlogged log hmem, Bool.false_and]
    rw [if_pos rfl, Channel.release, ← hunheld]

/-- The engine is started with whatever log can be kept. -/
lemma log_step_of_starts {c : Channel} {startup : Startup}
    (hs : s.starts (.attachDriver c startup) = true) :
    (s.step (.attachDriver c startup)).log = startup.logCapacity.map (Channel.fresh "") := by
  rcases hd : s.lifecycle.destroyed with _ | _
  · rw [starts_of_live hd, Bool.and_eq_true, decide_eq_true_eq] at hs
    obtain ⟨hnever, hok⟩ := hs
    rcases ho : startup.outcome with e | u
    · simp [ho, Except.isOk, Except.toBool] at hok
    · simp [step, perform, attachDriver_eq hd, hnever, ho, started]
  · simp [starts, hd] at hs

lemma issued_of_destroyed (hd : s.isDestroyed = true) (d : Deed) : s.issued d = [] := by
  cases d with
  | does op => simp [issued, produced_of_destroyed hd]
  | _ => rfl

lemma issued_of_live (hlive : s.isDestroyed = false) (d : Deed) :
    s.issued d = d.item?.toList := by
  cases d with
  | does op => simp [issued, produced_of_live hlive, Deed.item?]
  | _ => rfl

/-- **What one deed adds to the log**: what is produced in it, if the session holds the log and
there is room.  The session holds on to it if it does not refuse anything and the session goes
on. -/
theorem exists_log_act (h : s.IsSound given) (hsome : s.process.isSome = true)
    (hlog : s.log = some log) (d : Deed) :
    ∃ next, (s.act d).log = some next ∧
      s.collected d ++ next.queue = log.queue ++
        (if log.senderHeld && log.accepts then (s.issued d).map Item.bytes else []) ∧
      next.senderHeld =
        (log.senderHeld && ((s.issued d).isEmpty || log.accepts) && !(s.act d).isDestroyed) := by
  have hnext := h.log_act (h.startsBy_eq_false hsome d)
  rw [hlog, Option.map_some] at hnext
  refine ⟨_, hnext, ?_, ?_⟩
  · have hqueue := collected_append_tend hlog d
    have hrelease : ∀ log : Channel, log.release.queue = log.queue := fun _ => rfl
    rcases hd : s.isDestroyed with _ | _
    · rw [issued_of_live hd, ← hqueue]
      split
      · rw [hrelease]
      · rfl
    · have hunheld : log.senderHeld = false := (h.isClosed hd).unlogged log hlog
      rw [hunheld] at hqueue ⊢
      split
      · rw [hrelease]
        exact hqueue
      · exact hqueue
  · have hheld := tend_senderHeld d log
    rcases hd : s.isDestroyed with _ | _
    · have hnone : d.item?.isNone = d.item?.toList.isEmpty := by cases d.item? <;> rfl
      rw [issued_of_live hd, ← hnone, ← hheld]
      split
      · next hend => simp [hend, Channel.release]
      · next hend => simp [hend]
    · have hunheld : log.senderHeld = false := (h.isClosed hd).unlogged log hlog
      rw [hunheld, Bool.false_and] at hheld ⊢
      split
      · rfl
      · exact hheld

/-- If the log refuses something, it is let go as it is. -/
lemma Rejects.exists_log (hr : Rejects s d) (h : s.IsSound given)
    (hsome : s.process.isSome = true) (hlog : s.log = some log) :
    ∃ next, (s.act d).log = some next ∧ next.senderHeld = false ∧
      s.collected d ++ next.queue = log.queue := by
  obtain ⟨hissued, same, hsame, hfull⟩ := hr
  obtain rfl : log = same := Option.some.inj (hlog.symm.trans hsame)
  obtain ⟨next, hnext, hqueue, hlet⟩ := exists_log_act h hsome hlog d
  have hnonempty : (s.issued d).isEmpty = false := by simpa using hissued
  refine ⟨next, hnext, ?_, ?_⟩
  · rw [hlet, hfull, hnonempty, Bool.or_self, Bool.and_false, Bool.false_and]
  · simpa [hfull] using hqueue

/-- If it does not, it is added what is produced, and held as long as the session goes on. -/
lemma exists_log_of_not_rejects (hr : ¬ Rejects s d) (h : s.IsSound given)
    (hsome : s.process.isSome = true) (hlog : s.log = some log)
    (hheld : log.senderHeld = true ∨ s.isDestroyed = true) :
    ∃ next, (s.act d).log = some next ∧
      (next.senderHeld = true ∨ (s.act d).isDestroyed = true) ∧
      s.collected d ++ next.queue = log.queue ++ (s.issued d).map Item.bytes := by
  obtain ⟨next, hnext, hqueue, hlet⟩ := exists_log_act h hsome hlog d
  refine ⟨next, hnext, ?_⟩
  rcases hheld with hheld | hd
  · rw [hheld, Bool.true_and] at hqueue hlet
    have hroom : s.issued d = [] ∨ log.accepts = true := by
      by_contra hneither
      rw [not_or, Bool.not_eq_true] at hneither
      exact hr ⟨hneither.1, log, hlog, hneither.2⟩
    have hgoes : ((s.issued d).isEmpty || log.accepts) = true := by
      rcases hroom with hnothing | haccepts
      · simp [hnothing]
      · simp [haccepts]
    rw [hgoes, Bool.true_and] at hlet
    refine ⟨?_, ?_⟩
    · rcases hend : (s.act d).isDestroyed with _ | _
      · exact Or.inl (by rw [hlet, hend]; rfl)
      · exact Or.inr rfl
    · rcases hroom with hnothing | haccepts
      · simpa [hnothing] using hqueue
      · simpa [haccepts] using hqueue
  · exact ⟨Or.inr ((h.isClosed hd).act d).marked, by simpa [issued_of_destroyed hd] using hqueue⟩

/-! ## Whole runs -/

/-- A log that was let go accepts nothing more. -/
lemma logAccepted_of_unheld (h : s.IsSound given) (hsome : s.process.isSome = true)
    (hlog : s.log = some log) (hheld : log.senderHeld = false) (deeds : List Deed) :
    s.logAccepted deeds = log.queue := by
  induction deeds generalizing s log with
  | nil => simp [logAccepted, collectedIn, hlog]
  | cons d deeds ih =>
    obtain ⟨next, hnext, hqueue, hlet⟩ := exists_log_act h hsome hlog d
    rw [hheld, Bool.false_and] at hqueue hlet
    have hsome' : (s.act d).process.isSome = true := by
      rw [h.isSome_process_act, hsome, Bool.or_true]
    rw [logAccepted_cons, ih (h.act d) hsome' hnext hlet, hqueue]
    simp

/-- The log of a session accepts what the session produces until it refuses some of it, and nothing
after that. -/
lemma isLogged_run (h : s.IsSound given) (hsome : s.process.isSome = true)
    (hlog : s.log = some log) (hheld : log.senderHeld = true ∨ s.isDestroyed = true)
    (deeds : List Deed) : IsLogged log.queue s deeds := by
  induction deeds generalizing s log with
  | nil =>
    refine ⟨[], [], rfl, by simp, by simp, ?_⟩
    simp [logAccepted, collectedIn, issuedIn, hlog]
  | cons d deeds ih =>
    have hsome' : (s.act d).process.isSome = true := by
      rw [h.isSome_process_act, hsome, Bool.or_true]
    by_cases hr : Rejects s d
    · -- The log refuses something now, and what follows is nothing to it.
      obtain ⟨next, hnext, hlet, hqueue⟩ := hr.exists_log h hsome hlog
      refine ⟨[], d :: deeds, rfl, by simp, ?_, ?_⟩
      · intro first post heq
        obtain ⟨rfl, rfl⟩ := List.cons.inj heq
        exact hr
      · rw [logAccepted_cons, logAccepted_of_unheld (h.act d) hsome' hnext hlet, hqueue, issuedIn,
          List.map_nil, List.append_nil]
    · -- The log takes what is produced, and what follows is the run from the next state.
      obtain ⟨next, hnext, hstays, hqueue⟩ := exists_log_of_not_rejects hr h hsome hlog hheld
      obtain ⟨during, rest, rfl, hstay, hrefuse, hall⟩ := ih (h.act d) hsome' hnext hstays
      refine ⟨d :: during, rest, rfl, ?_, hrefuse, ?_⟩
      · intro pre first post heq
        cases pre with
        | nil =>
          obtain ⟨rfl, rfl⟩ := List.cons.inj heq
          exact hr
        | cons b pre =>
          obtain ⟨rfl, rfl⟩ := List.cons.inj heq
          exact hstay pre first post rfl
      · calc s.logAccepted (d :: (during ++ rest))
            = s.collected d ++ (s.act d).logAccepted (during ++ rest) := logAccepted_cons s d _
          _ = (s.collected d ++ next.queue) ++ ((s.act d).issuedIn during).map Item.bytes := by
              rw [hall, List.append_assoc]
          _ = log.queue ++ (s.issued d).map Item.bytes ++
                ((s.act d).issuedIn during).map Item.bytes := by rw [hqueue]
          _ = log.queue ++ (s.issuedIn (d :: during)).map Item.bytes := by
              rw [issuedIn, List.map_append, List.append_assoc]

/-- A session without a log has none as long as no engine is started, and accepts nothing in it. -/
lemma logAccepted_of_unstarted (h : s.IsSound given) (hlog : s.log = none)
    (hnone : ∀ pre d post, deeds = pre ++ d :: post → (s.actAll pre).startsBy d = false) :
    s.collectedIn deeds = [] ∧ (s.actAll deeds).log = none := by
  induction deeds generalizing s with
  | nil => exact ⟨rfl, hlog⟩
  | cons d deeds ih =>
    have hcollected : s.collected d = [] := by
      unfold collected
      split <;> simp [hlog]
    have hnext : (s.act d).log = none := by
      rw [h.log_act (hnone [] d deeds rfl), hlog]
      rfl
    obtain ⟨hrest, hend⟩ := ih (h.act d) hnext fun pre e post heq =>
      hnone (d :: pre) e post (by rw [heq]; rfl)
    exact ⟨by rw [collectedIn, hcollected, hrest, List.append_nil], hend⟩

/-- Before its engine is started a session has no log. -/
lemma IsSound.unstarted_of_process_eq_none (h : s.IsSound given)
    (hprocess : (s.actAll deeds).process = none) :
    ∀ pre d post, deeds = pre ++ d :: post → (s.actAll pre).startsBy d = false := by
  rintro pre d post rfl
  rw [← Bool.not_eq_true]
  intro hs
  have hstarted : ((s.actAll pre).act d).process.isSome = true := by
    rw [(h.actAll pre).isSome_process_act, hs, Bool.true_or]
  have hsome := ((h.actAll pre).act d).isSome_process_actAll hstarted post
  rw [actAll_append, actAll_cons] at hprocess
  rw [hprocess] at hsome
  exact absurd hsome (by decide)

/-! ## The session without its log -/

/-- A moment as if no log were kept.  Nothing is left of one that is only about the log. -/
def Moment.unlogged (m : Moment) : Option Moment :=
  m.op.unlogged.map fun op => ⟨m.before.unlogged, op, m.answer, m.after.unlogged⟩

/-- What is left of a deed if no log is kept. -/
def Deed.unlogged : Deed → Option Operation
  | .does op => op.unlogged
  | _ => none

/-- The moments of a run with a log. -/
def moments (s : Session) : List Deed → List Moment
  | [] => []
  | .does op :: deeds => ⟨s, op, (s.perform op).2, s.step op⟩ :: moments (s.step op) deeds
  | d :: deeds => moments (s.act d) deeds

/-- A run with a log and the run without it agree. -/
lemma history_unlogged (s : Session) (deeds : List Deed) :
    s.unlogged.history (deeds.filterMap Deed.unlogged) =
        (s.moments deeds).filterMap Moment.unlogged ∧
      s.unlogged.run (deeds.filterMap Deed.unlogged) = (s.actAll deeds).unlogged := by
  induction deeds generalizing s with
  | nil => exact ⟨rfl, rfl⟩
  | cons d deeds ih =>
    obtain ⟨hhistory, hrun⟩ := ih (s.act d)
    cases d with
    | does op =>
      rcases hop : op.unlogged with _ | next
      · -- The log writer catches up, and nothing is left of it.
        have hsame : (s.act (.does op)).unlogged = s.unlogged := unlogged_step_of_own hop
        rw [hsame] at hhistory hrun
        rw [List.filterMap_cons_none (show (Deed.does op).unlogged = none from hop)]
        exact ⟨by simpa [moments, Moment.unlogged, hop, act] using hhistory, hrun⟩
      · -- Both sides do the same, and go on from there.
        have hperform := perform_unlogged (s := s) hop
        have hstep : s.unlogged.step next = (s.act (.does op)).unlogged := by
          rw [step, hperform]
          rfl
        have hanswer : (s.unlogged.perform next).2 = (s.perform op).2 := by
          rw [hperform]
          rfl
        rw [List.filterMap_cons_some (show (Deed.does op).unlogged = some next from hop), history,
          run_cons, hstep, hanswer, hhistory, hrun]
        exact ⟨by simp [moments, Moment.unlogged, hop, act], rfl⟩
    | collects count => exact ⟨hhistory, hrun⟩
    | quits => exact ⟨hhistory, hrun⟩

/-- **The output log is complete and transparent.**  Take any run of a session that may keep a log,
and of its log writer, which takes chunks as it likes and may go away.  If the engine is started
with a log, then the log accepts what the session produces from then on, each chunk of output and
each completion marker, in order and with nothing in between, until it refuses one or the session
ends, and nothing after that.  If no log can be kept, or no engine is started, then nothing is
accepted.

Leave out the log writer and let no log be opened.  Then every operation gets the same answer, and
the session after it is the same but for the log: its lifecycle and the mark of its end, its
observers, and what is delivered to the driver, to the observers, to the listeners and to the
engine. -/
theorem log_is_complete_and_transparent (context : String) (given : Bool) (deeds : List Deed) :
    let first := fresh context given
    (∀ before c startup after, deeds = before ++ .does (.attachDriver c startup) :: after →
      (first.actAll before).starts (.attachDriver c startup) = true →
      let started := (first.actAll before).step (.attachDriver c startup)
      (∀ capacity, startup.logCapacity = some capacity →
        started.log = some (.fresh "" capacity) ∧
          first.logAccepted deeds = started.logAccepted after ∧ IsLogged [] started after) ∧
      (startup.logCapacity = none → first.logAccepted deeds = [])) ∧
    ((∀ before op after, deeds = before ++ .does op :: after →
      (first.actAll before).starts op = false) → first.logAccepted deeds = []) ∧
    first.history (deeds.filterMap Deed.unlogged) =
      (first.moments deeds).filterMap Moment.unlogged ∧
    first.run (deeds.filterMap Deed.unlogged) = (first.actAll deeds).unlogged := by
  intro first
  have hfirst : first.IsSound given := Or.inl (isOpen_fresh context given)
  refine ⟨?_, ?_, history_unlogged first deeds⟩
  · rintro before c startup after rfl hs started
    have hbefore := hfirst.actAll before
    have hsound : started.IsSound given := hbefore.step _
    have hsome : started.process.isSome = true := by
      rw [hbefore.isSome_process_step, hs, Bool.true_or]
    -- Up to the start there is no log, so all that is accepted is accepted after it.
    obtain ⟨hearlier, -⟩ := logAccepted_of_unstarted hfirst rfl
      (hfirst.unstarted_of_process_eq_none (hbefore.process_eq_none_of_starts hs))
    have hlater : first.logAccepted (before ++ .does (.attachDriver c startup) :: after) =
        started.logAccepted after := by
      rw [logAccepted, collectedIn_append, hearlier, actAll_append]
      rfl
    have hlog : started.log = startup.logCapacity.map (Channel.fresh "") := log_step_of_starts hs
    refine ⟨fun capacity hcapacity => ?_, fun hnone => ?_⟩
    · rw [hcapacity, Option.map_some] at hlog
      exact ⟨hlog, hlater, isLogged_run hsound hsome hlog (Or.inl rfl) after⟩
    · rw [hnone, Option.map_none] at hlog
      have hquiet : ∀ pre d post, after = pre ++ d :: post →
          (started.actAll pre).startsBy d = false := fun pre d _ _ =>
        (hsound.actAll pre).startsBy_eq_false (hsound.isSome_process_actAll hsome pre) d
      obtain ⟨hcollected, hend⟩ := logAccepted_of_unstarted hsound hlog hquiet
      rw [hlater, logAccepted, hcollected, hend]
      rfl
  · intro hnone
    have hquiet : ∀ pre d post, deeds = pre ++ d :: post →
        (first.actAll pre).startsBy d = false := by
      intro pre d post heq
      cases d with
      | does op => exact hnone pre op post heq
      | _ => rfl
    obtain ⟨hcollected, hend⟩ := logAccepted_of_unstarted hfirst rfl hquiet
    rw [logAccepted, hcollected, hend]
    rfl

/-- A log writer that is slower than the output loses the log at the third chunk, and the driver
notices nothing. -/
example :
    (fresh "work").logAccepted [.does (.write [64]),
      .does (.attachDriver (.fresh "typist" 8) ⟨.ok (), some 2⟩), .does (.write [65]),
      .does (.changeStatus ⟨"1", .new, .done, "work"⟩), .collects 1, .does (.write [66]),
      .does (.write [67]), .collects 2, .does (.write [68])] =
      [[65], utf8 (Task.Status.completionMarker .done), [66]] := by
  decide

end SharedTerminal.Session
