import SharedTerminal.Proofs.Session.Interference

/-!
# A session without its log

`Session.unlogged` leaves out the channel of the output log and nothing else, and
`Operation.unlogged` is an operation of a session for which no log is kept: an engine starts
without one, and a log writer has nothing to catch up with.

Nothing that a session does depends on its log.  The log is written after everyone else, and given
up without a trace if it refuses.  `perform_unlogged` says so for all operations at once.
-/

namespace SharedTerminal.Session

variable {s : Session} {op next : Operation}

/-- The session as if it kept no log. -/
def unlogged (s : Session) : Session := { s with log := none }

/-- What is left of an operation if no log is kept: nothing of what the log writer does, and
everything else, with no log opened for an engine that starts. -/
def Operation.unlogged : Operation → Option Operation
  | .attachDriver c startup => some (.attachDriver c { startup with logCapacity := none })
  | .flushLog => none
  | op => some op

@[simp] lemma unlogged_lifecycle (s : Session) : s.unlogged.lifecycle = s.lifecycle := rfl

@[simp] lemma unlogged_seats (s : Session) : s.unlogged.seats = s.seats := rfl

@[simp] lemma unlogged_listeners (s : Session) : s.unlogged.listeners = s.listeners := rfl

@[simp] lemma unlogged_process (s : Session) : s.unlogged.process = s.process := rfl

/-! ## Occurrences -/

lemma carryOut_unlogged (change : Option Task.Change) (s : Session) (e : Effect) :
    carryOut change s.unlogged e = (carryOut change s e).unlogged := by
  cases e with
  | notifyListeners => cases change <;> rfl
  | _ => rfl

lemma happen_unlogged (s : Session) (o : Occurrence) (change : Option Task.Change) :
    s.unlogged.happen o change = (s.happen o change).unlogged := by
  -- The lifecycle does not look at the log, so the effects are the same on both sides.
  have heffects : ∀ (t : Session) (effects : List Effect),
      effects.foldl (carryOut change) t.unlogged =
        (effects.foldl (carryOut change) t).unlogged :=
    fun t effects => List.foldl_hom unlogged (carryOut_unlogged change)
  exact heffects { s with lifecycle := (s.lifecycle.apply o).1 } (s.lifecycle.apply o).2

/-! ## Single operations -/

/-- Without a log the engine starts as it does with one. -/
lemma attachDriver_unlogged (s : Session) (c : Channel) (startup : Startup) :
    s.unlogged.attachDriver c { startup with logCapacity := none } =
      (s.attachDriver c startup).map unlogged id := by
  rw [attachDriver, attachDriver, happen_unlogged, unlogged_lifecycle]
  split
  · rfl
  · dsimp only
    split
    · split <;> rfl
    · split <;> rfl

lemma attachObserver_unlogged (s : Session) (c : Channel) :
    s.unlogged.attachObserver c = (s.attachObserver c).map unlogged id := by
  rw [attachObserver, attachObserver, unlogged_lifecycle]
  split <;> rfl

lemma detachDriver_unlogged (s : Session) (name : String) :
    s.unlogged.detachDriver name = (s.detachDriver name).map unlogged id := by
  have hleft := happen_unlogged (s.vacate .driver name) .driverDetached none
  rw [detachDriver, detachDriver, unlogged_seats]
  split
  · exact congrArg (·, true) hleft
  · rfl

lemma detachObserver_unlogged (s : Session) (name : String) :
    s.unlogged.detachObserver name = (s.detachObserver name).map unlogged id := by
  have hleft := happen_unlogged (s.vacate .observer name) .observerDetached none
  rw [detachObserver, detachObserver, unlogged_seats]
  split
  · exact congrArg (·, true) hleft
  · rfl

/-- Whoever refuses a chunk does so whether or not there is a log to refuse it. -/
lemma write_unlogged (s : Session) (chunk : Bytes) :
    s.unlogged.write chunk = (s.write chunk).unlogged := by
  have hlosses : s.losses.foldl (fun t o => t.happen o none) (s.offered chunk).unlogged =
      (s.losses.foldl (fun t o => t.happen o none) (s.offered chunk)).unlogged :=
    List.foldl_hom unlogged fun t o => happen_unlogged t o none
  rw [write, write, unlogged_lifecycle]
  split
  · rfl
  · exact hlosses

lemma changeStatus_unlogged (s : Session) (change : Task.Change) :
    s.unlogged.changeStatus change = (s.changeStatus change).map unlogged id := by
  rw [changeStatus, changeStatus, happen_unlogged, unlogged_lifecycle]
  split <;> rfl

lemma request_unlogged (s : Session) (name : String) (command : Engine.Command) :
    s.unlogged.request name command = (s.request name command).map unlogged id := by
  have hdriven : s.unlogged.drivenProcess name = s.drivenProcess name := rfl
  rw [request, hdriven, request]
  split
  · rfl
  · split <;> rfl

lemma subscribe_unlogged (s : Session) :
    s.unlogged.subscribe = s.subscribe.map unlogged id := by
  rw [subscribe, subscribe, unlogged_lifecycle]
  split <;> rfl

lemma unsubscribe_unlogged (s : Session) (n : Nat) :
    s.unlogged.unsubscribe n = (s.unsubscribe n).map unlogged id := by
  let left : Session := { s with listeners := (s.listeners.unsubscribe n).1 }
  have hleft := happen_unlogged left .listenerDetached none
  rw [unsubscribe, unsubscribe, unlogged_listeners]
  split
  · exact congrArg (·, true) hleft
  · rfl

lemma receive_unlogged (s : Session) (k : Nat) (max : Option Nat) :
    s.unlogged.receive k max = (s.receive k max).map unlogged id := by
  rw [receive, receive, unlogged_seats]
  split
  · rfl
  · split <;> rfl

lemma dropReceiver_unlogged (s : Session) (k : Nat) :
    s.unlogged.dropReceiver k = (s.dropReceiver k).map unlogged id := by
  rw [dropReceiver, dropReceiver, unlogged_seats]
  split <;> rfl

lemma takeCommands_unlogged (s : Session) :
    s.unlogged.takeCommands = s.takeCommands.map unlogged id := by
  rw [takeCommands, takeCommands, unlogged_process]
  split
  · rfl
  · split <;> rfl

lemma dropProcess_unlogged (s : Session) :
    s.unlogged.dropProcess = s.dropProcess.map unlogged id := by
  rw [dropProcess, dropProcess, unlogged_process]
  split <;> rfl

/-! ## All operations -/

/-- What does the same without a log answers the same. -/
lemma map_unlogged {α : Type} {p q : Session × α} (answer : α → Answer)
    (h : p = q.map unlogged id) : p.map id answer = (q.map id answer).map unlogged id := by
  rw [h]
  rfl

/-- **A session does the same with and without a log.** -/
theorem perform_unlogged (hop : op.unlogged = some next) :
    s.unlogged.perform next = (s.perform op).map unlogged id := by
  cases op with
  | attachDriver c startup =>
    obtain rfl := Option.some.inj hop
    exact map_unlogged .attached (attachDriver_unlogged s c startup)
  | attachObserver c =>
    obtain rfl := Option.some.inj hop
    exact map_unlogged .done (attachObserver_unlogged s c)
  | detachDriver name =>
    obtain rfl := Option.some.inj hop
    exact map_unlogged .was (detachDriver_unlogged s name)
  | detachObserver name =>
    obtain rfl := Option.some.inj hop
    exact map_unlogged .was (detachObserver_unlogged s name)
  | write chunk =>
    obtain rfl := Option.some.inj hop
    exact congrArg (·, Answer.nothing) (write_unlogged s chunk)
  | changeStatus change =>
    obtain rfl := Option.some.inj hop
    exact map_unlogged .done (changeStatus_unlogged s change)
  | submit name bytes =>
    obtain rfl := Option.some.inj hop
    exact map_unlogged .done (request_unlogged s name _)
  | resize name cols rows =>
    obtain rfl := Option.some.inj hop
    exact map_unlogged .done (request_unlogged s name _)
  | subscribe =>
    obtain rfl := Option.some.inj hop
    exact map_unlogged .number (subscribe_unlogged s)
  | unsubscribe n =>
    obtain rfl := Option.some.inj hop
    exact map_unlogged .was (unsubscribe_unlogged s n)
  | shutdown =>
    obtain rfl := Option.some.inj hop
    exact congrArg (·, Answer.nothing) (happen_unlogged s .shutdown none)
  | receive k max =>
    obtain rfl := Option.some.inj hop
    exact map_unlogged .received (receive_unlogged s k max)
  | dropReceiver k =>
    obtain rfl := Option.some.inj hop
    exact map_unlogged .was (dropReceiver_unlogged s k)
  | listen n =>
    obtain rfl := Option.some.inj hop
    rfl
  | dropListener n =>
    obtain rfl := Option.some.inj hop
    rfl
  | takeCommands =>
    obtain rfl := Option.some.inj hop
    exact map_unlogged .commands (takeCommands_unlogged s)
  | dropProcess =>
    obtain rfl := Option.some.inj hop
    exact map_unlogged .was (dropProcess_unlogged s)
  | flushLog => simp [Operation.unlogged] at hop

/-- What the log writer does changes nothing but the log. -/
lemma unlogged_step_of_own (hop : op.unlogged = none) :
    (s.step op).unlogged = s.unlogged := by
  cases op with
  | flushLog =>
    simp only [step, perform, flushLog]
    split <;> rfl
  | _ => simp [Operation.unlogged] at hop

end SharedTerminal.Session
