import SharedTerminal.Proofs.Session.Delivery
import SharedTerminal.Proofs.Session.Ending
import Mathlib.Data.List.Nodup

/-!
# What the engine is told

A session starts its engine once, for its first driver, and passes on to it what the channel that
drives asks for.  Drivers come and go, and the engine stays until the session ends and tells it to
stop.

The engine takes its commands while others come in, so what it received is what it took so far
followed by what still waits (`received`).  One operation adds to that the command that it was
granted, or the last one if it ends the session (`fetched_append_inbox`); `request_eq` says which
requests are granted.  The main statement is `run_commands`.
-/

namespace SharedTerminal.Session

variable {s : Session} {given : Bool} {op : Operation} {name : String}

/-! ## Requests, and what the engine receives -/

/-- The command that an operation asks for, and the name of the channel that asks. -/
def Operation.request? : Operation → Option (String × Engine.Command)
  | .submit name bytes => some (name, .input bytes)
  | .resize name cols rows => some (name, .resize cols rows)
  | _ => none

/-- The command that is granted in an operation. -/
def granted (s : Session) (op : Operation) : List Engine.Command :=
  match op.request?, (s.perform op).2 with
  | some (_, command), .done (.ok ()) => [command]
  | _, _ => []

/-- The commands that are granted in a list of operations, in order. -/
def grantedIn (s : Session) : List Operation → List Engine.Command
  | [] => []
  | op :: ops => s.granted op ++ grantedIn (s.step op) ops

/-- The commands that the engine takes in an operation. -/
def fetched (s : Session) (op : Operation) : List Engine.Command :=
  match op, (s.perform op).2 with
  | .takeCommands, .commands (some commands) => commands
  | _, _ => []

/-- The commands that the engine takes in a list of operations. -/
def fetchedIn (s : Session) : List Operation → List Engine.Command
  | [] => []
  | op :: ops => s.fetched op ++ fetchedIn (s.step op) ops

/-- The commands that wait for the engine. -/
def inbox (s : Session) : List Engine.Command := s.process.elim [] Process.inbox

/-- Every command that the engine has received by the end of a list of operations. -/
def received (s : Session) (ops : List Operation) : List Engine.Command :=
  s.fetchedIn ops ++ (s.run ops).inbox

/-- Whether the engine, if there is one, still takes commands. -/
def isHeeded (s : Session) : Bool := s.process.all (·.running)

/-- Whether an operation starts an engine. -/
def starts (s : Session) : Operation → Bool
  | .attachDriver _ startup =>
    (s.lifecycle.apply .driverAttached).2.contains .startEngine && startup.outcome.isOk
  | _ => false

/-- How many engines are started in a list of operations. -/
def startsIn (s : Session) : List Operation → Nat
  | [] => 0
  | op :: ops => (s.starts op).toNat + startsIn (s.step op) ops

lemma received_cons (s : Session) (op : Operation) (ops : List Operation) :
    s.received (op :: ops) = s.fetched op ++ (s.step op).received ops := by
  simp [received, fetchedIn]

/-! ## Which requests are granted -/

/-- With at most one driver, whoever has the role has the slot. -/
lemma Standing.driver?_eq {seat : Seat} (h : s.Standing given) (hmem : seat ∈ s.seats)
    (hrole : seat.role = .driver) : s.driver? = some seat.channel := by
  obtain ⟨found, hfound⟩ : ∃ found, s.seats.find? (·.role = .driver) = some found := by
    rw [← Option.isSome_iff_exists, List.find?_isSome]
    exact ⟨seat, hmem, by simp [hrole]⟩
  -- Both are among the drivers, of whom there is no more than one.
  have hle : (s.seats.filter (·.role = .driver)).length ≤ 1 := by
    rw [← List.countP_eq_length_filter]
    exact h.drivers_le
  have hfoundrole := List.find?_some hfound
  have hin : seat ∈ s.seats.filter (·.role = .driver) := List.mem_filter.2 ⟨hmem, by simp [hrole]⟩
  have hother : found ∈ s.seats.filter (·.role = .driver) :=
    List.mem_filter.2 ⟨List.mem_of_find?_eq_some hfound, hfoundrole⟩
  have hpos := List.length_pos_of_mem hin
  obtain ⟨only, hall⟩ := List.length_eq_one_iff.1 (Nat.le_antisymm hle hpos)
  rw [hall, List.mem_singleton] at hin hother
  rw [driver?, hfound, hother, ← hin]
  rfl

/-- With at most one driver, it is found under its name. -/
lemma Standing.any_isNamed_driver (h : s.Standing given) (name : String) :
    s.seats.any (Seat.isNamed .driver name) = true ↔ s.driver?.map Channel.id = some name := by
  constructor
  · intro hany
    obtain ⟨seat, hseat, hnamed⟩ := List.any_eq_true.1 hany
    simp only [Seat.isNamed, Bool.and_eq_true, decide_eq_true_eq, beq_iff_eq] at hnamed
    rw [h.driver?_eq hseat hnamed.1, Option.map_some, hnamed.2]
  · intro hdriver
    obtain ⟨c, hc, rfl⟩ := Option.map_eq_some_iff.1 hdriver
    obtain ⟨found, hfound, rfl⟩ := Option.map_eq_some_iff.1 hc
    refine List.any_eq_true.2 ⟨found, List.mem_of_find?_eq_some hfound, ?_⟩
    have hrole := List.find?_some hfound
    simpa [Seat.isNamed] using hrole

/-- Where there is a driver, there is an engine, and the session has a link to it. -/
lemma Standing.exists_process (h : s.Standing given)
    (hn : s.seats.any (Seat.isNamed .driver name) = true) :
    ∃ p, s.process = some p ∧ p.linked = true := by
  have hattached : s.lifecycle.driver = .attached := by
    by_contra hne
    have hone := (drivers_vacate_of_any h.drivers_le hn).1
    rw [h.manned, if_neg hne] at hone
    omega
  have hsome : s.process.isSome = true := by
    rw [h.engaged, hattached]
    rfl
  obtain ⟨p, hp⟩ := Option.isSome_iff_exists.1 hsome
  exact ⟨p, hp, h.linked p hp⟩

/-- **A request is granted if the session goes on and the channel that asks is its driver's**, as
long as the engine takes commands. -/
theorem IsSound.request_eq (h : s.IsSound given) (name : String) (command : Engine.Command) :
    s.request name command =
      if s.isDestroyed then (s, .error (.destroyed s.context))
      else if s.driver?.map Channel.id = some name then
        if s.isHeeded then ({ s with process := s.process.map (Process.tell command) }, .ok ())
        else (s, .error (.engine "engine stopped"))
      else (s, .error (.noDriver s.context)) := by
  rw [h.isDestroyed_eq]
  rcases h with h | h
  · rcases hn : s.seats.any (Seat.isNamed .driver name) with _ | _
    · have hother : ¬ s.driver?.map Channel.id = some name := by
        rw [← h.any_isNamed_driver]
        simp [hn]
      simp [request, drivenProcess, h.live, hn, hother]
    · obtain ⟨p, hp, hlinked⟩ := h.exists_process hn
      have hdriver := (h.any_isNamed_driver name).1 hn
      simp only [request, drivenProcess, h.live, hn, hp, hlinked, hdriver, isHeeded]
      rcases hr : p.running with _ | _ <;> simp [hr]
  · simp [request, drivenProcess, h.finished]

/-! ## The engine in one operation -/

lemma starts_of_live (hlive : s.lifecycle.destroyed = false) (c : Channel) (startup : Startup) :
    s.starts (.attachDriver c startup) =
      (s.lifecycle.driver = .never && startup.outcome.isOk) := by
  rcases hp : s.lifecycle.driver with _ | _ | _ <;>
    simp [starts, Lifecycle.apply, hlive, hp, Lifecycle.welcome]

lemma IsClosed.starts_eq_false (h : s.IsClosed given) (op : Operation) :
    s.starts op = false := by
  cases op with
  | attachDriver c startup => simp [starts, h.finished]
  | _ => rfl

/-- The operation that starts the engine does not end the session. -/
lemma IsSound.starts_eq_false_of_isDestroyed (h : s.IsSound given)
    (hd : (s.step op).isDestroyed = true) : s.starts op = false := by
  rcases h with h | h
  · cases op with
    | attachDriver c startup =>
      rw [← Bool.not_eq_true]
      intro hs
      rw [starts_of_live h.live, Bool.and_eq_true, decide_eq_true_eq] at hs
      obtain ⟨hnever, hok⟩ := hs
      rcases ho : startup.outcome with e | u
      · simp [ho, Except.isOk, Except.toBool] at hok
      · -- The driver is taken in, and nobody who is taken in ends the session.
        have ha : (s.attachDriver c startup).2 = .ok .driving := by
          simp [attachDriver_eq h.live, hnever, ho]
        have hlive := h.isSound.isDestroyed_attachDriver ha
        exact absurd (hlive.symm.trans hd) (by decide)
    | _ => rfl
  · exact h.starts_eq_false op

lemma process_moved (hlive : s.lifecycle.destroyed = false) (hop : op ≠ .shutdown)
    (hq : op.isQuiet = false) :
    (s.moved op).process = if s.starts op then some .fresh else s.process := by
  cases op with
  | attachDriver c startup =>
    rw [starts_of_live hlive]
    rcases hp : s.lifecycle.driver with _ | _ | _
    · rcases ho : startup.outcome with e | u
      · simp [moved, hp, ho, Except.isOk, Except.toBool]
      · simp [moved, hp, ho, started, Except.isOk, Except.toBool]
    · simp [moved, hp, seatObserver]
    · simp [moved, hp, driven, seatDriver]
  | detachDriver name =>
    simp only [moved]
    split <;> rfl
  | detachObserver name =>
    simp only [moved]
    split <;> rfl
  | write chunk =>
    simp only [moved]
    split <;> rfl
  | subscribe =>
    simp only [moved, step, perform, subscribe]
    split <;> rfl
  | shutdown => exact absurd rfl hop
  | attachObserver | changeStatus | unsubscribe => rfl
  | _ => simp [Operation.isQuiet] at hq

/-- Whether the session ends in an operation. -/
def endsIn (s : Session) (op : Operation) : Bool := !s.isDestroyed && (s.step op).isDestroyed

/-- Whether an operation is about the engine's queue. -/
def Operation.isForEngine : Operation → Bool
  | .submit .. | .resize .. | .takeCommands | .dropProcess => true
  | _ => false

/-- What an operation does to an engine that there is: it is told what is granted, and to stop if
the session ends. -/
def serve (s : Session) (op : Operation) (p : Process) : Process :=
  match op with
  | .submit .. | .resize .. => (s.granted op).foldl (fun p command => p.tell command) p
  | .takeCommands => if p.running then { p with inbox := [] } else p
  | .dropProcess => { p with inbox := [], running := false }
  | op => if s.endsIn op then p.unlink else p

@[simp] lemma serve_takeCommands (s : Session) (p : Process) :
    s.serve .takeCommands p = if p.running then { p with inbox := [] } else p := rfl

@[simp] lemma serve_dropProcess (s : Session) (p : Process) :
    s.serve .dropProcess p = { p with inbox := [], running := false } := rfl

lemma serve_of_request? {command : Engine.Command} (hop : op.request? = some (name, command))
    (s : Session) (p : Process) :
    s.serve op p = (s.granted op).foldl (fun p command => p.tell command) p := by
  cases op with
  | submit | resize => rfl
  | _ => simp [Operation.request?] at hop

lemma serve_of_not_isForEngine (ho : op.isForEngine = false) (s : Session) (p : Process) :
    s.serve op p = if s.endsIn op then p.unlink else p := by
  cases op with
  | submit | resize | takeCommands | dropProcess => simp [Operation.isForEngine] at ho
  | _ => rfl

lemma endsIn_of_isQuiet (hq : op.isQuiet = true) (s : Session) : s.endsIn op = false := by
  have hended : (s.step op).isDestroyed = s.isDestroyed := (alike_step hq s).ended
  simp [endsIn, hended]

lemma isQuiet_of_isForEngine (ho : op.isForEngine = true) : op.isQuiet = true := by
  cases op with
  | submit | resize | takeCommands | dropProcess => rfl
  | _ => simp [Operation.isForEngine] at ho

lemma starts_of_isQuiet (hq : op.isQuiet = true) (s : Session) : s.starts op = false := by
  cases op with
  | attachDriver => simp [Operation.isQuiet] at hq
  | _ => rfl

/-- An operation that is not quiet may be the one that starts the engine, or the one that ends the
session and with it the link to the engine. -/
lemma IsOpen.process_step (h : s.IsOpen given) (hq : op.isQuiet = false) :
    (s.step op).process =
      if s.starts op then some .fresh
      else if s.endsIn op then s.process.map Process.unlink else s.process := by
  have hprepared : (s.prepared op).process = if s.starts op then some .fresh else s.process := by
    by_cases hop : op = .shutdown
    · subst hop
      rfl
    · rw [prepared_of_ne hop]
      exact process_moved h.live hop hq
  have hlive : s.isDestroyed = false := h.unmarked
  have hstep := h.step_eq_prepared op
  rw [endsIn, hlive, Bool.not_false, Bool.true_and]
  rcases hd : (s.step op).isDestroyed with _ | _
  · rw [hd, if_neg (by decide)] at hstep
    rw [hstep, hprepared]
    rfl
  · have hnot : s.starts op = false := h.isSound.starts_eq_false_of_isDestroyed hd
    rw [hnot] at hprepared ⊢
    rw [hd, if_pos rfl] at hstep
    rw [hstep]
    simp [concluded, dismantle, hprepared]

/-- Once the session has ended nothing but its queues changes. -/
lemma IsClosed.process_step (h : s.IsClosed given) (hq : op.isQuiet = false) :
    (s.step op).process =
      if s.starts op then some .fresh
      else if s.endsIn op then s.process.map Process.unlink else s.process := by
  have hmark : s.isDestroyed = true := h.marked
  rw [h.starts_eq_false, endsIn, hmark, h.step_eq_self hq]
  rfl

/-- Whoever types and whoever changes the size makes a request. -/
lemma perform_of_request? {command : Engine.Command}
    (hop : op.request? = some (name, command)) (s : Session) :
    s.perform op = (s.request name command).map id .done := by
  cases op with
  | submit | resize =>
    simp only [Operation.request?, Option.some.injEq, Prod.mk.injEq] at hop
    obtain ⟨rfl, rfl⟩ := hop
    rfl
  | _ => simp [Operation.request?] at hop

lemma granted_of_request? {command : Engine.Command}
    (hop : op.request? = some (name, command)) (s : Session) :
    s.granted op = if (s.request name command).2 = .ok () then [command] else [] := by
  rw [granted, hop, perform_of_request? hop]
  rcases ho : (s.request name command).2 with e | u
  · simp [ho]
  · simp [ho]

lemma granted_of_request?_eq_none (hop : op.request? = none) (s : Session) :
    s.granted op = [] := by
  rw [granted, hop]

lemma IsSound.process_request (h : s.IsSound given) (name : String) (command : Engine.Command) :
    (s.request name command).1.process =
      if (s.request name command).2 = .ok () then s.process.map (Process.tell command)
      else s.process := by
  rw [h.request_eq]
  split
  · simp
  · split
    · split <;> simp
    · simp

lemma process_receive (s : Session) (k : Nat) (max : Option Nat) :
    (s.receive k max).1.process = s.process := by
  unfold receive
  split
  · rfl
  · split <;> rfl

lemma process_dropReceiver (s : Session) (k : Nat) :
    (s.dropReceiver k).1.process = s.process := by
  unfold dropReceiver
  split <;> rfl

lemma process_flushLog (s : Session) : s.flushLog.1.process = s.process := by
  unfold flushLog
  split <;> rfl

lemma IsSound.process_step_of_request? (h : s.IsSound given) {command : Engine.Command}
    (hop : op.request? = some (name, command)) :
    (s.step op).process = s.process.map (s.serve op) := by
  have hserve : s.serve op = fun p => (s.granted op).foldl (fun p command => p.tell command) p :=
    funext (serve_of_request? hop s)
  have hstep : s.step op = (s.request name command).1 := by
    rw [Session.step, perform_of_request? hop]
    rfl
  rw [hserve, hstep, h.process_request, granted_of_request? hop]
  split <;> simp

lemma map_serve_of_isQuiet (ho : op.isForEngine = false) (hq : op.isQuiet = true) :
    s.process.map (s.serve op) = s.process := by
  have hserve : s.serve op = id := by
    funext p
    rw [serve_of_not_isForEngine ho, endsIn_of_isQuiet hq]
    rfl
  rw [hserve, Option.map_id]
  rfl

lemma IsSound.process_step_of_isQuiet (h : s.IsSound given) (hq : op.isQuiet = true) :
    (s.step op).process = s.process.map (s.serve op) := by
  cases op with
  | submit name bytes => exact h.process_step_of_request? rfl
  | resize name cols rows => exact h.process_step_of_request? rfl
  | takeCommands =>
    simp only [Session.step, perform, takeCommands]
    rcases hp : s.process with _ | p
    · simp [hp]
    · rcases hr : p.running with _ | _ <;> simp [hp, hr]
  | dropProcess =>
    simp only [Session.step, perform, dropProcess]
    rcases hp : s.process with _ | p <;> simp [hp]
  | receive k max => exact (process_receive s k max).trans (map_serve_of_isQuiet rfl hq).symm
  | dropReceiver k => exact (process_dropReceiver s k).trans (map_serve_of_isQuiet rfl hq).symm
  | listen | dropListener => exact (map_serve_of_isQuiet rfl hq).symm
  | flushLog => exact (process_flushLog s).trans (map_serve_of_isQuiet rfl hq).symm
  | _ => simp [Operation.isQuiet] at hq

/-- **The engine in one operation.** -/
theorem IsSound.process_step (h : s.IsSound given) (op : Operation) :
    (s.step op).process = if s.starts op then some .fresh else s.process.map (s.serve op) := by
  rcases hq : op.isQuiet with _ | _
  · have hother : op.isForEngine = false := by
      rw [← Bool.not_eq_true]
      exact fun ho => by simp [isQuiet_of_isForEngine ho] at hq
    have hserve : s.process.map (s.serve op) =
        if s.endsIn op then s.process.map Process.unlink else s.process := by
      rw [funext (serve_of_not_isForEngine hother s)]
      rcases s.endsIn op with _ | _ <;> simp
    rw [hserve]
    exact h.elim (·.process_step hq) (·.process_step hq)
  · rw [h.process_step_of_isQuiet hq, starts_of_isQuiet hq]
    rfl

/-- Only a session without an engine starts one. -/
lemma IsSound.process_eq_none_of_starts (h : s.IsSound given) (hs : s.starts op = true) :
    s.process = none := by
  cases op with
  | attachDriver c startup =>
    rcases h with h | h
    · rw [starts_of_live h.live, Bool.and_eq_true, decide_eq_true_eq] at hs
      rw [← Option.not_isSome_iff_eq_none, h.engaged, hs.1]
      simp
    · simp [starts, h.finished] at hs
  | _ => simp [starts] at hs

/-! ## Its queue in one operation -/

@[simp] lemma tell_running (command : Engine.Command) (p : Process) :
    (p.tell command).running = p.running := by
  unfold Process.tell
  split <;> rfl

lemma tell_inbox {p : Process} (hr : p.running = true) (command : Engine.Command) :
    (p.tell command).inbox = p.inbox ++ [command] := by
  simp [Process.tell, hr]

@[simp] lemma unlink_running (p : Process) : p.unlink.running = p.running := by
  unfold Process.unlink
  split
  · exact tell_running .shutdown p
  · rfl

lemma unlink_inbox {p : Process} (hl : p.linked = true) (hr : p.running = true) :
    p.unlink.inbox = p.inbox ++ [.shutdown] := by
  simp [Process.unlink, hl, tell_inbox hr]

lemma foldl_tell_running (commands : List Engine.Command) (p : Process) :
    (commands.foldl (fun p command => p.tell command) p).running = p.running := by
  induction commands generalizing p with
  | nil => rfl
  | cons command commands ih => rw [List.foldl_cons, ih, tell_running]

lemma running_of_serve {p : Process} (hr : (s.serve op p).running = true) :
    p.running = true := by
  rcases ho : op.isForEngine with _ | _
  · rw [serve_of_not_isForEngine ho] at hr
    split at hr
    · simpa using hr
    · exact hr
  · cases op with
    | submit | resize =>
      rw [serve_of_request? rfl, foldl_tell_running] at hr
      exact hr
    | takeCommands =>
      rw [serve_takeCommands] at hr
      split at hr
      · assumption
      · exact hr
    | dropProcess => simp at hr
    | _ => simp [Operation.isForEngine] at ho

/-- An engine that has gone away does not come back. -/
lemma IsSound.isHeeded_of_step (h : s.IsSound given) (hheeded : (s.step op).isHeeded = true) :
    s.isHeeded = true := by
  rw [isHeeded, h.process_step op] at hheeded
  split at hheeded
  · next hs => simp [isHeeded, h.process_eq_none_of_starts hs]
  · rcases hp : s.process with _ | p
    · simp [isHeeded, hp]
    · simp only [hp, Option.map_some, Option.all_some] at hheeded
      simpa [isHeeded, hp] using running_of_serve hheeded

/-- What an operation adds to the commands that an engine receives. -/
lemma IsSound.fetched_append_serve (h : s.IsSound given) (op : Operation) {p : Process}
    (hp : s.process = some p) (hr : (s.serve op p).running = true) :
    s.fetched op ++ (s.serve op p).inbox =
      p.inbox ++ s.granted op ++ if s.endsIn op then [.shutdown] else [] := by
  have hrunning := running_of_serve hr
  rcases ho : op.isForEngine with _ | _
  · have hfetched : s.fetched op = [] := by
      cases op with
      | takeCommands => simp [Operation.isForEngine] at ho
      | _ => rfl
    have hrequest : op.request? = none := by
      cases op with
      | submit | resize => simp [Operation.isForEngine] at ho
      | _ => rfl
    rw [hfetched, granted_of_request?_eq_none hrequest, serve_of_not_isForEngine ho]
    rcases he : s.endsIn op with _ | _
    · simp
    · -- The session had its link to the engine until now.
      have hlive : s.isDestroyed = false := by
        simp only [endsIn, Bool.and_eq_true, Bool.not_eq_true'] at he
        exact he.1
      have hlinked := (h.isOpen hlive).linked p hp
      simp [unlink_inbox hlinked hrunning]
  · rw [endsIn_of_isQuiet (isQuiet_of_isForEngine ho)]
    cases op with
    | submit | resize =>
      rw [serve_of_request? rfl, granted_of_request? rfl]
      split <;> simp [fetched, tell_inbox hrunning]
    | takeCommands =>
      have hnone : s.granted .takeCommands = [] := granted_of_request?_eq_none rfl s
      simp [fetched, perform, takeCommands, hp, hrunning, hnone]
    | dropProcess => simp at hr
    | _ => simp [Operation.isForEngine] at ho

/-- Without an engine nothing is granted. -/
lemma IsSound.granted_of_process_eq_none (h : s.IsSound given) (hp : s.process = none)
    (op : Operation) : s.granted op = [] := by
  rcases hreq : op.request? with _ | ⟨name, command⟩
  · exact granted_of_request?_eq_none hreq s
  · rw [granted_of_request? hreq, if_neg]
    intro hok
    rcases h with h | h
    · rcases hn : s.seats.any (Seat.isNamed .driver name) with _ | _
      · simp [request, drivenProcess, h.live, hn] at hok
      · obtain ⟨p, hsome, _⟩ := h.exists_process hn
        simp [hp] at hsome
    · simp [request, drivenProcess, h.finished] at hok

lemma fetched_of_process_eq_none (hp : s.process = none) (op : Operation) :
    s.fetched op = [] := by
  cases op with
  | takeCommands => simp [fetched, perform, takeCommands, hp]
  | _ => rfl

/-- **What an operation adds to the commands that the engine receives.** -/
theorem IsSound.fetched_append_inbox (h : s.IsSound given) (op : Operation)
    (hheeded : (s.step op).isHeeded = true) :
    s.fetched op ++ (s.step op).inbox = s.inbox ++ s.granted op ++
      if s.endsIn op && s.process.isSome then [.shutdown] else [] := by
  have hstep := h.process_step op
  rcases hp : s.process with _ | p
  · have hnone : (s.step op).inbox = [] := by
      rw [inbox, hstep, hp]
      split <;> rfl
    have hempty : s.inbox = [] := by
      rw [inbox, hp]
      rfl
    simp [hnone, hempty, fetched_of_process_eq_none hp, h.granted_of_process_eq_none hp]
  · have hnot : s.starts op = false := by
      rw [← Bool.not_eq_true]
      exact fun hs => by simp [h.process_eq_none_of_starts hs] at hp
    rw [hnot, hp] at hstep
    have hr : (s.serve op p).running = true := by simpa [isHeeded, hstep] using hheeded
    simpa [inbox, hp, hstep] using h.fetched_append_serve op hp hr

/-! ## Whole runs -/

lemma IsSound.isHeeded_of_run (h : s.IsSound given) {ops : List Operation}
    (hheeded : (s.run ops).isHeeded = true) : s.isHeeded = true := by
  induction ops generalizing s with
  | nil => exact hheeded
  | cons op ops ih => exact h.isHeeded_of_step (ih (h.step op) hheeded)

lemma IsSound.isSome_process_step (h : s.IsSound given) (op : Operation) :
    (s.step op).process.isSome = (s.starts op || s.process.isSome) := by
  rw [h.process_step op]
  rcases s.starts op with _ | _ <;> simp

lemma IsClosed.isSome_process_run (h : s.IsClosed given) (ops : List Operation) :
    (s.run ops).process.isSome = s.process.isSome := by
  induction ops generalizing s with
  | nil => rfl
  | cons op ops ih =>
    rw [run_cons, ih (h.step op), h.isSound.isSome_process_step, h.starts_eq_false,
      Bool.false_or]

/-- A session that has ended grants nothing. -/
lemma IsClosed.grantedIn_eq_nil (h : s.IsClosed given) (ops : List Operation) :
    s.grantedIn ops = [] := by
  induction ops generalizing s with
  | nil => rfl
  | cons op ops ih =>
    have hnone : s.granted op = [] := by
      rcases hreq : op.request? with _ | ⟨name, command⟩
      · exact granted_of_request?_eq_none hreq s
      · simp [granted_of_request? hreq, request, drivenProcess, h.finished]
    rw [grantedIn, hnone, ih (h.step op), List.append_nil]

/-- At most one engine is ever started. -/
lemma IsSound.startsIn_le (h : s.IsSound given) (ops : List Operation) :
    s.startsIn ops + s.process.isSome.toNat ≤ 1 := by
  induction ops generalizing s with
  | nil =>
    rw [startsIn, Nat.zero_add]
    exact Bool.toNat_le _
  | cons op ops ih =>
    have hrest := ih (h.step op)
    rw [h.isSome_process_step] at hrest
    rw [startsIn]
    rcases hs : s.starts op with _ | _
    · simpa [hs] using hrest
    · simpa [hs, h.process_eq_none_of_starts hs, Nat.add_comm] using hrest

/-- The engine receives what is granted, and the last command when the session ends. -/
lemma IsSound.received_eq (h : s.IsSound given) (ops : List Operation)
    (hheeded : (s.run ops).isHeeded = true) :
    s.received ops = s.inbox ++ s.grantedIn ops ++
      if !s.isDestroyed && (s.run ops).isDestroyed && (s.run ops).process.isSome
      then [.shutdown] else [] := by
  induction ops generalizing s with
  | nil => simp [received, fetchedIn, grantedIn]
  | cons op ops ih =>
    have hnext := (h.step op).isHeeded_of_run hheeded
    have hstep := h.fetched_append_inbox op hnext
    have hrest := ih (h.step op) hheeded
    rw [received_cons, hrest, ← List.append_assoc, ← List.append_assoc, hstep, grantedIn,
      run_cons]
    rcases hd : (s.step op).isDestroyed with _ | _
    · -- The session goes on, and what follows is the run from the next state.
      have hends : s.endsIn op = false := by simp [endsIn, hd]
      have hlive : s.isDestroyed = false := by
        rw [← Bool.not_eq_true]
        intro hended
        rw [(h.isDestroyed_step op).2 (Or.inl hended)] at hd
        exact absurd hd (by decide)
      simp [hends, hlive]
    · -- This was the end of the session, and nothing is granted after it.
      have hclosed := (h.step op).isClosed hd
      have hended : ((s.step op).run ops).isDestroyed = true := (hclosed.run ops).marked
      have hsome : ((s.step op).run ops).process.isSome = s.process.isSome := by
        rw [hclosed.isSome_process_run, h.isSome_process_step,
          h.starts_eq_false_of_isDestroyed hd, Bool.false_or]
      simp [endsIn, hd, hclosed.grantedIn_eq_nil, hended, hsome]

lemma IsSound.context_run (h : s.IsSound given) (ops : List Operation) :
    (s.run ops).context = s.context := by
  induction ops generalizing s with
  | nil => rfl
  | cons op ops ih => exact (ih (h.step op)).trans (h.context_step op)

/-- If all channels have names of their own, one that does not drive is not taken for the
driver. -/
lemma IsSound.driver?_ne_of_role_ne (h : s.IsSound given) (hids : s.ids.Nodup) {seat : Seat}
    (hseat : seat ∈ s.seats) (hrole : seat.role ≠ .driver) :
    s.driver?.map Channel.id ≠ some seat.channel.id := by
  rcases h with h | h
  · intro hdriver
    obtain ⟨driver, hmem, hnamed⟩ := List.any_eq_true.1 ((h.any_isNamed_driver _).2 hdriver)
    simp only [Seat.isNamed, Bool.and_eq_true, decide_eq_true_eq, beq_iff_eq] at hnamed
    have hsame : driver = seat := List.inj_on_of_nodup_map hids hmem hseat hnamed.2
    exact hrole (hsame ▸ hnamed.1)
  · simp [h.driver?_eq_none]

/-- If all channels have names of their own, one that does not drive has nothing granted. -/
lemma IsSound.request_eq_of_role_ne (h : s.IsSound given) (hids : s.ids.Nodup) {seat : Seat}
    (hseat : seat ∈ s.seats) (hrole : seat.role ≠ .driver) (command : Engine.Command) :
    s.request seat.channel.id command =
      (s, .error (if s.isDestroyed then .destroyed s.context else .noDriver s.context)) := by
  rw [h.request_eq, if_neg (h.driver?_ne_of_role_ne hids hseat hrole)]
  rcases s.isDestroyed with _ | _ <;> simp

/-- Who takes over drives the engine that there is. -/
lemma IsSound.takeover (h : s.IsSound given) {c : Channel} {startup : Startup}
    (hp : s.process.isSome = true) (ha : (s.attachDriver c startup).2 = .ok .driving) :
    (s.attachDriver c startup).1.process = s.process ∧
      (s.attachDriver c startup).1.driver?.map Channel.id = some c.id := by
  have hlive := live_of_attachDriver ha
  have hopen := h.isOpen (h.isDestroyed_eq.trans hlive)
  have hnext := (h.step (.attachDriver c startup)).isOpen (h.isDestroyed_attachDriver ha)
  have hdeparted : s.attachDriver c startup = (s.driven c, .ok .driving) := by
    rw [attachDriver_eq hlive] at ha ⊢
    rcases hd : s.lifecycle.driver with _ | _ | _
    · simp [hopen.engaged, hd] at hp
    · simp [hd] at ha
    · rfl
  have hstep : s.step (.attachDriver c startup) = s.driven c := congrArg Prod.fst hdeparted
  rw [hstep] at hnext
  rw [hdeparted]
  refine ⟨rfl, (hnext.any_isNamed_driver c.id).1 ?_⟩
  simp [driven, seatDriver, Seat.isNamed]

/-- **The engine is told what its drivers ask for, and nothing else.**  A session starts at most
one engine.  As long as the engine takes commands, what it receives is what was granted, in order,
and the command to stop after that if the session has ended.  A request is granted just if the
session goes on and the channel that asks is its driver's.  Who takes over drives the engine that
there is, and if all channels have names of their own no one else reaches it. -/
theorem run_commands (context : String) (given : Bool) (ops : List Operation) :
    let first := fresh context given
    let s := first.run ops
    first.startsIn ops ≤ 1 ∧
    (s.isHeeded = true → first.received ops =
      first.grantedIn ops ++ if s.isDestroyed && s.process.isSome then [.shutdown] else []) ∧
    (∀ op name command, op.request? = some (name, command) →
      (s.perform op).2 = .done (
        if s.isDestroyed then .error (.destroyed context)
        else if s.driver?.map Channel.id = some name then
          if s.isHeeded then .ok () else .error (.engine "engine stopped")
        else .error (.noDriver context))) ∧
    (∀ c startup, s.process.isSome = true → (s.attachDriver c startup).2 = .ok .driving →
      (s.attachDriver c startup).1.process = s.process ∧
        (s.attachDriver c startup).1.driver?.map Channel.id = some c.id) ∧
    (s.ids.Nodup → ∀ seat ∈ s.seats, seat.role ≠ .driver → ∀ command,
      s.request seat.channel.id command =
        (s, .error (if s.isDestroyed then .destroyed context else .noDriver context))) := by
  intro first s
  have hfirst : first.IsSound given := Or.inl (isOpen_fresh context given)
  have hs : s.IsSound given := hfirst.run ops
  have hcontext : s.context = context := hfirst.context_run ops
  refine ⟨?_, ?_, ?_, ?_, ?_⟩
  · exact Nat.le_trans (Nat.le_add_right _ _) (hfirst.startsIn_le ops)
  · intro hheeded
    have hlive : first.isDestroyed = false := rfl
    have hempty : first.inbox = [] := rfl
    rw [hfirst.received_eq ops hheeded, hlive, hempty, List.nil_append, Bool.not_false,
      Bool.true_and]
  · intro op name command hop
    rw [perform_of_request? hop, hs.request_eq, hcontext]
    split
    · rfl
    · split
      · split <;> rfl
      · rfl
  · exact fun c startup => hs.takeover
  · intro hids seat hseat hrole command
    rw [hs.request_eq_of_role_ne hids hseat hrole, hcontext]

/-- The engine outlives its first driver, whom it no longer obeys. -/
example :
    (fresh "work").received [.attachDriver (.fresh "a" 4) ⟨.ok (), none⟩,
      .changeStatus ⟨"1", .new, .running, "work"⟩, .submit "a" [65], .takeCommands,
      .detachDriver "a", .attachDriver (.fresh "b" 4) ⟨.ok (), none⟩, .submit "a" [66],
      .resize "b" 80 24, .shutdown, .submit "b" [67]] =
    [.input [65], .resize 80 24, .shutdown] := by
  decide

end SharedTerminal.Session
