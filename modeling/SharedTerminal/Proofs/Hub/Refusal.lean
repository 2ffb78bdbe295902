import SharedTerminal.Proofs.Hub.Call
import SharedTerminal.Proofs.Session.Commands
import SharedTerminal.Proofs.Session.Listening

/-!
# Refused operations

An operation on a session is refused where there is nothing to do it to: a session that has ended
takes in nobody, only the channel that drives can type or leave the driver's place, and nobody can
leave twice.  The answer says so.  The start of an engine can fail too, but then the session asks
itself whether it goes on, so that is not counted as a refusal here.

`refusal?` tells from what can be seen of a session whether it refuses an operation, and with which
answer (`IsSound.refusal?_eq_some_iff`).  What is refused changes nothing at all
(`IsReached.perform_of_refusal?`), neither in the session nor in the hub around it, so that a run is
what it would be without everything that was refused in it (`evolve_heeded`).  The main statement is
`refusal_changes_nothing`.
-/

namespace SharedTerminal

namespace Session

/-! ## What is refused -/

/-- An answer says that nothing was done. -/
def Answer.isRefusal : Answer → Bool
  | .attached (.error _) | .done (.error _) | .number (.error _) | .was false => true
  | _ => false

/-- The engine is to be started, and cannot be. -/
def failsToStart (s : Session) : Operation → Bool
  | .attachDriver _ startup =>
    !s.isDestroyed && s.lifecycle.driver = .never && !startup.outcome.isOk
  | _ => false

/-- An operation is refused: the answer says so, and it is not the engine that failed to start. -/
def refuses (s : Session) (op : Operation) : Bool :=
  (s.perform op).2.isRefusal && !s.failsToStart op

/-- The names of the channels that observe. -/
def observers (s : Session) : List String :=
  (s.seats.filter (·.role = .observer)).map (·.channel.id)

/-- Why a session takes in nobody, if it does not. -/
def closing? (s : Session) : Option Error :=
  if s.isDestroyed then some (.destroyed s.context) else none

/-- Why the channel with a name cannot ask for a command, if it cannot. -/
def objection? (s : Session) (name : String) : Option Error :=
  if s.isDestroyed then some (.destroyed s.context)
  else if s.driver?.map Channel.id ≠ some name then some (.noDriver s.context)
  else if s.isHeeded then none
  else some (.engine "engine stopped")

/-- The answer to an operation on who or what may not be there. -/
def missing? (present : Bool) : Option Answer := if present then none else some (.was false)

/-- The answer by which a session refuses an operation, if it does. -/
def refusal? (s : Session) : Operation → Option Answer
  | .attachDriver .. => s.closing?.map fun e => .attached (.error e)
  | .attachObserver _ | .changeStatus _ => s.closing?.map fun e => .done (.error e)
  | .subscribe => s.closing?.map fun e => .number (.error e)
  | .submit name _ | .resize name _ _ => (s.objection? name).map fun e => .done (.error e)
  | .detachDriver name => missing? (s.driver?.map Channel.id = some name)
  | .detachObserver name => missing? (s.observers.contains name)
  | .unsubscribe n => missing? (s.listeners.isRegistered n)
  | .dropReceiver k => missing? (s.seats[k]?.any (·.channel.receiverHeld))
  | .dropListener n => missing? (s.listeners.isReading n)
  | .dropProcess => missing? (s.process.any (·.running))
  | .write _ | .shutdown | .receive .. | .listen _ | .takeCommands | .flushLog => none

/-- An engine that has gone away has no commands to take. -/
def Process.IsDrained (p : Process) : Prop := p.running = false → p.inbox = []

/-- A session is sound, and its engine, if it has one, drained. -/
structure IsReached (s : Session) : Prop where
  /-- The session is open or closed. -/
  sound : s.IsSound true
  /-- Nothing waits for an engine that has gone away. -/
  drained : ∀ p ∈ s.process, p.IsDrained

variable {s : Session} {given : Bool} {op : Operation} {a : Answer} {name : String}

/-! ### Drained engines -/

lemma Process.IsDrained.tell {p : Process} (h : p.IsDrained) (command : Engine.Command) :
    (p.tell command).IsDrained := by
  intro hr
  rw [tell_running] at hr
  rw [Process.tell, if_neg (by simp [hr]), h hr]

lemma Process.IsDrained.unlink {p : Process} (h : p.IsDrained) : p.unlink.IsDrained := by
  unfold Process.unlink
  split
  · exact h.tell .shutdown
  · exact h

lemma Process.IsDrained.serve {p : Process} (h : p.IsDrained) (s : Session) (op : Operation) :
    (s.serve op p).IsDrained := by
  rcases ho : op.isForEngine with _ | _
  · rw [serve_of_not_isForEngine ho]
    split
    · exact h.unlink
    · exact h
  · cases op with
    | submit | resize =>
      rw [serve_of_request? rfl, granted_of_request? rfl]
      split
      · exact h.tell _
      · exact h
    | takeCommands =>
      rw [serve_takeCommands]
      split
      · exact fun _ => rfl
      · exact h
    | dropProcess => exact fun _ => rfl
    | _ => simp [Operation.isForEngine] at ho

lemma isReached_fresh (context : String) : (fresh context).IsReached where
  sound := Or.inl (isOpen_fresh context true)
  drained := by simp [fresh]

lemma IsReached.step (h : s.IsReached) (op : Operation) : (s.step op).IsReached where
  sound := h.sound.step op
  drained := by
    intro p hp
    rw [h.sound.process_step op] at hp
    split at hp
    · obtain rfl : Process.fresh = p := by simpa using hp
      exact fun hr => by simp [Process.fresh] at hr
    · obtain ⟨before, hbefore, rfl⟩ := Option.mem_map.1 hp
      exact (h.drained before hbefore).serve s op

/-! ### Refused and not refused -/

/-- The driver is found under its name. -/
lemma IsSound.any_isNamed_driver (h : s.IsSound given) (name : String) :
    s.seats.any (Seat.isNamed .driver name) = decide (s.driver?.map Channel.id = some name) := by
  rcases h with h | h
  · rw [Bool.eq_iff_iff, h.any_isNamed_driver, decide_eq_true_eq]
  · rw [h.driver?_eq_none, List.any_eq_false.2 fun seat hseat => by
      simp [Seat.isNamed, h.vacant seat hseat]]
    rfl

lemma any_isNamed_observer (s : Session) (name : String) :
    s.seats.any (Seat.isNamed .observer name) = s.observers.contains name := by
  rw [Bool.eq_iff_iff, List.any_eq_true, List.contains_iff_mem]
  simp [observers, Seat.isNamed, and_assoc]

lemma IsSound.request_of_objection? (h : s.IsSound given) (name : String)
    (command : Engine.Command) :
    s.request name command =
      match s.objection? name with
      | some e => (s, .error e)
      | none => ({ s with process := s.process.map (Process.tell command) }, .ok ()) := by
  rw [h.request_eq, objection?]
  rcases s.isDestroyed with _ | _
  · by_cases hn : s.driver?.map Channel.id = some name
    · rcases s.isHeeded with _ | _ <;> simp [hn]
    · simp [hn]
  · rfl

lemma map_closing?_eq_some {f : Error → Answer} :
    s.closing?.map f = some a ↔ s.isDestroyed = true ∧ f (.destroyed s.context) = a := by
  rw [closing?]
  rcases s.isDestroyed with _ | _ <;> simp

lemma missing?_eq_some {present : Bool} :
    missing? present = some a ↔ present = false ∧ a = .was false := by
  cases present <;> simp [missing?, eq_comm]

/-- A consumer goes away only once. -/
lemma modifyChannel_dropReceiver {k : Nat} {seat : Seat} (hk : s.seats[k]? = some seat)
    (hgone : seat.channel.receiverHeld = false) : s.modifyChannel k Channel.dropReceiver = s := by
  have hsame : seat.channel.dropReceiver = seat.channel := by
    rw [Channel.dropReceiver, ← hgone]
  have hseats : s.seats.modify k (fun it => { it with channel := it.channel.dropReceiver }) =
      s.seats := by
    refine modify_eq_self_of_mem fun it hit => ?_
    obtain rfl : seat = it := by simpa [hk] using hit
    rw [hsame]
  rw [modifyChannel, hseats]

/-- **What is refused changes nothing in the session**, and is answered as foretold. -/
theorem IsReached.perform_of_refusal? (h : s.IsReached) (hr : s.refusal? op = some a) :
    s.perform op = (s, a) := by
  have hended := h.sound.isDestroyed_eq
  cases op with
  | attachDriver c startup =>
    obtain ⟨hd, rfl⟩ := map_closing?_eq_some.1 hr
    simp [perform, attachDriver, ← hended, hd]
  | attachObserver | changeStatus | subscribe =>
    obtain ⟨hd, rfl⟩ := map_closing?_eq_some.1 hr
    simp [perform, attachObserver, changeStatus, subscribe, ← hended, hd]
  | submit name bytes | resize name cols rows =>
    obtain ⟨e, he, rfl⟩ := Option.map_eq_some_iff.1 hr
    simp [perform, submit, resize, h.sound.request_of_objection?, he]
  | detachDriver name =>
    obtain ⟨hn, rfl⟩ := missing?_eq_some.1 hr
    rw [← h.sound.any_isNamed_driver] at hn
    simp [perform, detachDriver, hn]
  | detachObserver name =>
    obtain ⟨hn, rfl⟩ := missing?_eq_some.1 hr
    rw [← any_isNamed_observer] at hn
    simp [perform, detachObserver, hn]
  | unsubscribe n =>
    obtain ⟨hn, rfl⟩ := missing?_eq_some.1 hr
    simp [perform, unsubscribe, hn]
  | dropReceiver k =>
    obtain ⟨hn, rfl⟩ := missing?_eq_some.1 hr
    rcases hk : s.seats[k]? with _ | seat
    · simp [perform, dropReceiver, hk]
    · have hgone : seat.channel.receiverHeld = false := by simpa [hk] using hn
      simp [perform, dropReceiver, hk, hgone, modifyChannel_dropReceiver hk hgone]
  | dropListener n =>
    obtain ⟨hn, rfl⟩ := missing?_eq_some.1 hr
    simp [perform, dropListener, Listeners.dropReceiver, hn]
  | dropProcess =>
    obtain ⟨hn, rfl⟩ := missing?_eq_some.1 hr
    rcases hp : s.process with _ | p
    · simp [perform, dropProcess, hp]
    · have hgone : p.running = false := by simpa [hp] using hn
      have hsame : ({ p with inbox := [], running := false } : Process) = p := by
        rw [← h.drained p hp hgone, ← hgone]
      simp only [perform, dropProcess, hp, hsame, hgone]
      rw [← hp]
      rfl
  | write | shutdown | receive | listen | takeCommands | flushLog => simp [refusal?] at hr

/-- What may be missing is refused if it is. -/
lemma refuses_eq_missing? {present : Bool} (hstart : s.failsToStart op = false)
    (ha : (s.perform op).2 = .was present) : s.refuses op = (missing? present).isSome := by
  rw [refuses, ha, hstart]
  cases present <;> rfl

/-- **A session refuses an operation just where it is foretold.** -/
theorem IsReached.refuses_eq (h : s.IsReached) (op : Operation) :
    s.refuses op = (s.refusal? op).isSome := by
  have hended := h.sound.isDestroyed_eq
  cases op with
  | attachDriver c startup =>
    rcases hd : s.lifecycle.destroyed with _ | _
    · -- Whoever asks to drive a session that goes on is taken in, or the engine fails to start.
      rw [hd] at hended
      rcases hp : s.lifecycle.driver with _ | _ | _ <;> rcases ho : startup.outcome with e | u <;>
        simp [refuses, refusal?, closing?, failsToStart, perform, attachDriver_eq hd, hended, hp,
          ho, Answer.isRefusal, Except.isOk, Except.toBool]
    · rw [hd] at hended
      simp [refuses, refusal?, closing?, failsToStart, perform, attachDriver, hended, hd,
        Answer.isRefusal]
  | attachObserver | changeStatus | subscribe =>
    rcases hd : s.lifecycle.destroyed with _ | _ <;> rw [hd] at hended <;>
      simp [refuses, refusal?, closing?, failsToStart, perform, attachObserver, changeStatus,
        subscribe, hended, hd, Answer.isRefusal]
  | submit name bytes | resize name cols rows =>
    rcases ho : s.objection? name with _ | e <;>
      simp [refuses, refusal?, failsToStart, perform, submit, resize,
        h.sound.request_of_objection?, ho, Answer.isRefusal]
  | detachDriver name =>
    rw [refusal?, ← h.sound.any_isNamed_driver]
    refine refuses_eq_missing? rfl ?_
    rcases hn : s.seats.any (Seat.isNamed .driver name) with _ | _ <;>
      simp [perform, detachDriver, hn]
  | detachObserver name =>
    rw [refusal?, ← any_isNamed_observer]
    refine refuses_eq_missing? rfl ?_
    rcases hn : s.seats.any (Seat.isNamed .observer name) with _ | _ <;>
      simp [perform, detachObserver, hn]
  | unsubscribe n =>
    refine refuses_eq_missing? rfl ?_
    rcases hn : s.listeners.isRegistered n with _ | _ <;> simp [perform, unsubscribe, hn]
  | dropReceiver k =>
    refine refuses_eq_missing? rfl ?_
    rcases hk : s.seats[k]? with _ | seat <;> simp [perform, dropReceiver, hk]
  | dropListener n =>
    refine refuses_eq_missing? rfl ?_
    rcases hn : s.listeners.isReading n with _ | _ <;>
      simp [perform, dropListener, Listeners.dropReceiver, hn]
  | dropProcess =>
    refine refuses_eq_missing? rfl ?_
    rcases hp : s.process with _ | p <;> simp [perform, dropProcess, hp]
  | write | shutdown | receive | listen | takeCommands | flushLog =>
    rfl

end Session

namespace Hub

/-! ## Refusals in a hub -/

/-- An operation on one of the sessions is refused. -/
def refuses (hub : Hub) : Operation → Bool
  | .on n op => (hub.session n).refuses op
  | .findOrCreate _ | .shutdown | .remove .. => false

/-- What is left of a list of operations without those that are refused in their time. -/
def heeded (hub : Hub) : List Operation → List Operation
  | [] => []
  | op :: ops => (if hub.refuses op then [] else [op]) ++ heeded (hub.step op) ops

/-- Every session of a hub is one that operations lead to. -/
def IsReached (hub : Hub) : Prop := ∀ n, (hub.session n).IsReached

variable {hub : Hub} {n : Nat}

lemma isReached_empty : empty.IsReached := by
  intro n
  rw [session_of_le (Nat.zero_le n)]
  exact Session.isReached_fresh ""

lemma IsReached.on (h : hub.IsReached) (n : Nat) (op : Session.Operation) :
    (hub.step (.on n op)).IsReached := by
  intro m
  by_cases hm : m = n
  · subst hm
    by_cases hlt : m < hub.sessions.length
    · rw [session_on hlt]
      exact (h m).step op
    · rw [session_of_le (by simpa using hlt)]
      exact Session.isReached_fresh ""
  · rw [session_on_of_ne hm]
    exact h m

lemma IsReached.shutdowns (h : hub.IsReached) (entries : List (String × Nat)) :
    (hub.evolve (entries.map fun entry => .on entry.2 .shutdown)).IsReached := by
  induction entries generalizing hub with
  | nil => exact h
  | cons entry entries ih => exact ih (h.on entry.2 .shutdown)

lemma IsReached.step (h : hub.IsReached) (op : Operation) : (hub.step op).IsReached := by
  cases op with
  | findOrCreate context =>
    rcases hn : hub.find? context with _ | m
    · intro k
      simp only [Hub.step, findOrCreate, hn, create]
      rw [session_append]
      split
      · exact Session.isReached_fresh context
      · exact h k
    · simpa only [Hub.step, findOrCreate, hn] using h
  | on n op => exact h.on n op
  | shutdown =>
    intro k
    have hlast := h.shutdowns hub.entries k
    rwa [← session_shutdown] at hlast
  | remove context n => exact h

lemma IsReached.evolve (h : hub.IsReached) (ops : List Operation) :
    (hub.evolve ops).IsReached := by
  induction ops generalizing hub with
  | nil => exact h
  | cons op ops ih => exact ih (h.step op)

/-- **What a session refuses changes nothing in the hub around it.** -/
theorem IsReached.run_of_refusal? (h : hub.IsReached) {op : Session.Operation}
    {a : Session.Answer} (hr : (hub.session n).refusal? op = some a) :
    hub.run n (·.perform op) = (hub, a) := by
  rw [Hub.run, (h n).perform_of_refusal? hr]
  simp only [put_session]

/-- Neither does it in the world of the hub, in which engines start and logs are written. -/
lemma IsReached.act_of_refusal? (h : hub.IsReached) {op : Session.Operation}
    {a : Session.Answer} (hr : (hub.session n).refusal? op = some a) (settings : Settings) :
    hub.act settings n op = (hub, a) := by
  rcases act_cases op with ⟨c, startup, rfl⟩ | rfl | hother
  · obtain ⟨hd, rfl⟩ := Session.map_closing?_eq_some.1 hr
    rw [(h n).sound.isDestroyed_eq] at hd
    have hattach : (hub.session n).attachDriver c settings.startup =
        (hub.session n, .error (.destroyed (hub.session n).context)) := by
      simp [Session.attachDriver, hd]
    -- The session has no other engine than before.
    have hsame : ((hub.session n).process.isNone && (hub.session n).process.isSome) = false := by
      cases (hub.session n).process <;> rfl
    simp [act, attachDriver, hattach, put_session, hsame]
  · simp [Session.refusal?] at hr
  · rw [hother, h.run_of_refusal? hr]

lemma IsReached.step_of_refuses (h : hub.IsReached) {op : Operation}
    (hr : hub.refuses op = true) : hub.step op = hub := by
  cases op with
  | on n op =>
    have hsome : ((hub.session n).refusal? op).isSome = true := by
      rw [← (h n).refuses_eq]
      exact hr
    obtain ⟨a, ha⟩ := Option.isSome_iff_exists.1 hsome
    rw [Hub.step, h.run_of_refusal? ha]
  | findOrCreate | shutdown | remove => simp [refuses] at hr

/-- **A run is what it is without everything that is refused in it.** -/
theorem IsReached.evolve_heeded (h : hub.IsReached) (ops : List Operation) :
    hub.evolve (hub.heeded ops) = hub.evolve ops := by
  induction ops generalizing hub with
  | nil => rfl
  | cons op ops ih =>
    rw [heeded, evolve_cons]
    rcases hr : hub.refuses op with _ | _
    · exact ih (h.step op)
    · -- What is left out would have changed nothing, so the rest is heeded from the same hub.
      have hsame := h.step_of_refuses hr
      rw [hsame]
      exact ih h

/-- **What is refused changes nothing.**  After any run of a hub, an operation on any of its
sessions that is refused leaves everything as it was: all sessions with what they hold and what
waits in their queues, the register, the engines and the logs.  A session refuses an operation just
where `refusal?` says so, with that answer, and the only other answer of this kind is that the
engine could not be started.  If all channels of a session have names of their own, one that does
not drive any more detaches nobody, whoever took over.  So the hub is what it would be if nothing
that was refused had ever been asked for. -/
theorem refusal_changes_nothing (ops : List Operation) :
    let hub := empty.evolve ops
    (∀ n op, (hub.session n).refuses op = true → hub.step (.on n op) = hub) ∧
    (∀ n op, (hub.session n).refuses op = ((hub.session n).refusal? op).isSome) ∧
    (∀ n op a, (hub.session n).refusal? op = some a →
      hub.run n (·.perform op) = (hub, a) ∧ ∀ settings, hub.act settings n op = (hub, a)) ∧
    (∀ n, (hub.session n).ids.Nodup → ∀ seat ∈ (hub.session n).seats, seat.role ≠ .driver →
      hub.step (.on n (.detachDriver seat.channel.id)) = hub) ∧
    empty.evolve (empty.heeded ops) = hub := by
  intro hub
  have hreached : hub.IsReached := isReached_empty.evolve ops
  refine ⟨?_, ?_, ?_, ?_, ?_⟩
  · intro n op hr
    have hrefuses : hub.refuses (.on n op) = true := hr
    exact hreached.step_of_refuses hrefuses
  · exact fun n op => (hreached n).refuses_eq op
  · exact fun n op a hr => ⟨hreached.run_of_refusal? hr, hreached.act_of_refusal? hr⟩
  · intro n hids seat hseat hrole
    have hother := (hreached n).sound.driver?_ne_of_role_ne hids hseat hrole
    have hr : (hub.session n).refusal? (.detachDriver seat.channel.id) = some (.was false) := by
      rw [Session.refusal?, decide_eq_false hother]
      rfl
    exact congrArg Prod.fst (hreached.run_of_refusal? hr)
  · exact isReached_empty.evolve_heeded ops

end Hub

end SharedTerminal
