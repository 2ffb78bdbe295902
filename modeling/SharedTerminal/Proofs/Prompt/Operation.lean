import SharedTerminal.Prompt
import Mathlib.Data.List.Basic
import Mathlib.Logic.Relation
import Mathlib.Tactic.Common

/-!
# A prompt at work

A prompt takes commands, starts tasks and hears of their end.  In the meantime the tasks write, and
what they write goes to the session in the same stream as the reports of the prompt.  `History`
holds all that happened so far; `step` adds what one command, one piece of output, the end of a
program or the notice of it brings about, and `run` a list of these in any order.

A task is read from its launch until its program ends, also after the prompt has stopped, and the
notice of the end may come at any time after that.  Notices of tasks that do not run may come at any
time, with or without a reason.

`Move` lists what can happen at once: a command is a sequence of moves (`moves_take`), and so is
each of the other operations (`moves_step`).
-/

namespace SharedTerminal.Prompt

/-! ## What happened -/

/-- What goes to the session. -/
inductive Entry where
  /-- A report of the prompt. -/
  | told (report : Report)
  /-- Output of a task. -/
  | output (task : Nat) (bytes : Bytes)
deriving DecidableEq, Repr

/-- An entry as the session gets it. -/
def Entry.event : Entry → Engine.Event
  | told report => report.event
  | output _ bytes => .output bytes

/-- A prompt and what happened to it. -/
structure History where
  /-- The prompt. -/
  prompt : Prompt
  /-- The tasks that are still read. -/
  readers : List Nat
  /-- The tasks whose programs have ended, and whether they did with success. -/
  exits : List (Nat × Bool)
  /-- Every byte that was taken, with the prompt as it was then. -/
  keys : List (Prompt × UInt8)
  /-- What went to the session. -/
  stream : List Entry

/-- What can happen. -/
inductive Operation where
  /-- A command is taken; `starts` tells which lines could be started then. -/
  | take (command : Engine.Command) (starts : Launcher)
  /-- A task writes. -/
  | write (task : Nat) (bytes : Bytes)
  /-- The program of a task ends. -/
  | exit (task : Nat) (success : Bool)
  /-- The end of a task is noticed. -/
  | notice (task : Nat) (success : Bool)
  /-- Other prompts give numbers to their tasks. -/
  | skip (n : Nat)

/-- What some acts tell the session. -/
def reports (acts : List Act) : List Entry :=
  acts.filterMap fun
    | .tell report => some (.told report)
    | _ => none

/-- The tasks that some acts start. -/
def launched (acts : List Act) : List Nat :=
  acts.filterMap fun
    | .launch task _ => some task
    | _ => none

/-- The bytes of a chunk, each with the prompt as it is when the byte is taken. -/
def handled (starts : Launcher) (p : Prompt) : Bytes → List (Prompt × UInt8)
  | [] => []
  | b :: rest =>
    (p, b) :: handled starts (if p.running.isSome then p else (p.press starts [] b).1) rest

/-- The bytes of a command, if it has any and the prompt takes it. -/
def typed (starts : Launcher) (p : Prompt) : Engine.Command → List (Prompt × UInt8)
  | .input bytes => if p.stopped then [] else handled starts p bytes
  | _ => []

namespace History

/-- The history of a prompt to which nothing has happened. -/
def start (first : Nat) : History :=
  ⟨(Prompt.start first).1, [], [], [], reports (Prompt.start first).2⟩

/-- The history after the prompt has acted on some bytes. -/
def after (h : History) (result : Prompt × List Act) (keys : List (Prompt × UInt8)) : History :=
  ⟨result.1, h.readers ++ launched result.2, h.exits, h.keys ++ keys,
    h.stream ++ reports result.2⟩

/-- The history after an operation. -/
def step (h : History) : Operation → History
  | .take command starts =>
    h.after (h.prompt.react starts command) (typed starts h.prompt command)
  | .write task bytes =>
    if task ∈ h.readers then { h with stream := h.stream ++ [.output task bytes] } else h
  | .exit task success =>
    if task ∈ h.readers then
      { h with readers := h.readers.filter (· ≠ task), exits := h.exits ++ [(task, success)] }
    else h
  | .notice task success =>
    if (task, success) ∈ h.exits ∨ h.prompt.running.map Running.task ≠ some task then
      h.after (h.prompt.finish task success) []
    else h
  | .skip n => { h with prompt := { h.prompt with next := h.prompt.next + n } }

/-- The history after a list of operations. -/
def run (h : History) (ops : List Operation) : History := ops.foldl step h

/-- What the session got. -/
def events (h : History) : List Engine.Event := h.stream.map Entry.event

end History

/-! ## What the bytes mean -/

/-- A byte enters a blank line at the prompt. -/
def isBlankLine (key : Prompt × UInt8) : Bool :=
  key.1.running.isNone && Key.ofByte key.2 == .enter && (lineText key.1.line).isEmpty

/-- A byte enters a line at the prompt that is to be started as a task. -/
def isCommandLine (key : Prompt × UInt8) : Bool :=
  key.1.running.isNone && Key.ofByte key.2 == .enter && !(lineText key.1.line).isEmpty

/-- A byte is an interrupt at the prompt. -/
def isBreak (key : Prompt × UInt8) : Bool :=
  key.1.running.isNone && Key.ofByte key.2 == .interrupt

/-- A byte interrupts a task that runs. -/
def interrupts (task : Nat) (key : Prompt × UInt8) : Bool :=
  key.1.running.any (·.task == task) && Key.ofByte key.2 == .interrupt

lemma eq_false_of_isCommandLine {key : Prompt × UInt8} (hline : isCommandLine key = true) :
    isBlankLine key = false ∧ isBreak key = false := by
  simp only [isCommandLine, Bool.and_eq_true, beq_iff_eq, Bool.not_eq_true'] at hline
  simp [isBlankLine, isBreak, hline]

lemma isCommandLine_of_asks {key : Prompt × UInt8} (hasks : isBlankLine key = !isBreak key) :
    isCommandLine key = false := by
  rcases hline : isCommandLine key with _ | _
  · rfl
  · simp [eq_false_of_isCommandLine hline] at hasks

/-! ## Moves -/

/-- What can happen at once. -/
inductive Move : History → History → Prop where
  /-- The line is edited. -/
  | edit {h : History} {b : UInt8} (hlive : h.prompt.stopped = false)
      (hidle : h.prompt.running = none) (hblank : isBlankLine (h.prompt, b) = false)
      (hline : isCommandLine (h.prompt, b) = false) (hbreak : isBreak (h.prompt, b) = false)
      (line : Bytes) :
      Move h { h with
        prompt := { h.prompt with line := line }
        keys := h.keys ++ [(h.prompt, b)] }
  /-- What was typed is shown. -/
  | echo {h : History} (hlive : h.prompt.stopped = false) (hidle : h.prompt.running = none)
      (bytes : Bytes) : Move h { h with stream := h.stream ++ [.told (.echo bytes)] }
  /-- The prompt is shown again. -/
  | reprompt {h : History} {b : UInt8} (hlive : h.prompt.stopped = false)
      (hidle : h.prompt.running = none)
      (hasks : isBlankLine (h.prompt, b) = !isBreak (h.prompt, b)) :
      Move h { h with
        prompt := { h.prompt with line := [] }
        keys := h.keys ++ [(h.prompt, b)]
        stream := h.stream ++ [.told .ready] }
  /-- A task is started. -/
  | launch {h : History} {b : UInt8} (hlive : h.prompt.stopped = false)
      (hidle : h.prompt.running = none) (hline : isCommandLine (h.prompt, b) = true) :
      Move h { h with
        prompt := { h.prompt with
          line := [], running := some ⟨h.prompt.next, false⟩, next := h.prompt.next + 1 }
        readers := h.readers ++ [h.prompt.next]
        keys := h.keys ++ [(h.prompt, b)]
        stream := h.stream ++ [.told (.status h.prompt.next .new .running)] }
  /-- A task cannot be started. -/
  | refuse {h : History} {b : UInt8} (hlive : h.prompt.stopped = false)
      (hidle : h.prompt.running = none) (hline : isCommandLine (h.prompt, b) = true)
      (reason : Bytes) :
      Move h { h with
        prompt := { h.prompt with line := [], next := h.prompt.next + 1 }
        keys := h.keys ++ [(h.prompt, b)]
        stream := h.stream ++ [.told (.status h.prompt.next .new .running),
          .told (.refusal h.prompt.next reason),
          .told (.status h.prompt.next .running .failed), .told .ready] }
  /-- Bytes go to the task that runs. -/
  | forward {h : History} {task : Running} (hlive : h.prompt.stopped = false)
      (hrun : h.prompt.running = some task) (bytes : Bytes) :
      Move h { h with
        prompt := { h.prompt with
          running := some { task with
            interrupted := task.interrupted || bytes.any (Key.ofByte · == .interrupt) } }
        keys := h.keys ++ bytes.map fun b => (h.prompt, b) }
  /-- The terminal gets another size. -/
  | resize {h : History} (cols rows : UInt16) :
      Move h { h with prompt := { h.prompt with cols := cols, rows := rows } }
  /-- The prompt stops. -/
  | stop {h : History} :
      Move h { h with prompt := { h.prompt with running := none, stopped := true } }
  /-- A task writes. -/
  | write {h : History} {task : Nat} (hreads : task ∈ h.readers) (bytes : Bytes) :
      Move h { h with stream := h.stream ++ [.output task bytes] }
  /-- The program of a task ends. -/
  | exit {h : History} {task : Nat} (hreads : task ∈ h.readers) (success : Bool) :
      Move h { h with
        readers := h.readers.filter (· ≠ task), exits := h.exits ++ [(task, success)] }
  /-- The end of the task that runs is noticed. -/
  | finish {h : History} {task : Running} {success : Bool} (hrun : h.prompt.running = some task)
      (hexit : (task.task, success) ∈ h.exits) :
      Move h { h with
        prompt := { h.prompt with running := none }
        stream := h.stream ++ [.told (.status task.task .running (finalStatus task success)),
          .told .ready] }
  /-- Numbers go to tasks of other prompts. -/
  | skip {h : History} (n : Nat) :
      Move h { h with prompt := { h.prompt with next := h.prompt.next + n } }

open Relation (ReflTransGen)

variable {h : History} {starts : Launcher}

lemma after_nil (h : History) : h.after (h.prompt, []) [] = h := by
  simp [History.after, reports, launched]

lemma after_after (h : History) (p q : Prompt) (acts more : List Act)
    (keys others : List (Prompt × UInt8)) :
    (h.after (p, acts) keys).after (q, more) others =
      h.after (q, acts ++ more) (keys ++ others) := by
  simp [History.after, reports, launched]

/-- Where the echo goes does not matter to the prompt. -/
lemma press_fst (starts : Launcher) (p : Prompt) (echo : Bytes) (b : UInt8) :
    (p.press starts echo b).1 = (p.press starts [] b).1 := by
  unfold press
  rcases Key.ofByte b with _ | _ | _ | _
  · simp only [enter]
    split <;> rfl
  · rfl
  · simp only
    split <;> rfl
  · rfl

lemma handled_of_running {p : Prompt} (hrun : p.running.isSome = true) (bytes : Bytes) :
    handled starts p bytes = bytes.map fun b => (p, b) := by
  induction bytes with
  | nil => rfl
  | cons b rest ih => rw [handled, if_pos hrun, ih, List.map_cons]

/-- A key at the prompt. -/
lemma moves_press (hlive : h.prompt.stopped = false) (hidle : h.prompt.running = none)
    (starts : Launcher) (echo : Bytes) (b : UInt8) :
    ReflTransGen Move h (h.after ((h.prompt.press starts echo b).1,
      (h.prompt.press starts echo b).2.2) [(h.prompt, b)]) := by
  rcases hk : Key.ofByte b with _ | _ | _ | _
  · have hecho := Move.echo hlive hidle (echo ++ utf8 "\r\n")
    -- What was typed is shown before the line is looked at.
    rcases hempty : (lineText h.prompt.line).isEmpty with _ | _
    · have hline : isCommandLine (h.prompt, b) = true := by simp [isCommandLine, hidle, hk, hempty]
      rcases hs : starts h.prompt.next (lineText h.prompt.line) with e | u
      · have hrefuse := Move.refuse (h := { h with
          stream := h.stream ++ [.told (.echo (echo ++ utf8 "\r\n"))] }) hlive hidle hline
          (utf8 (e.message ++ "\r\n"))
        simpa [press, hk, enter, hempty, launch, hs, History.after, reports, launched] using
          (ReflTransGen.single hecho).tail hrefuse
      · have hlaunch := Move.launch (h := { h with
          stream := h.stream ++ [.told (.echo (echo ++ utf8 "\r\n"))] }) hlive hidle hline
        simpa [press, hk, enter, hempty, launch, hs, History.after, reports, launched] using
          (ReflTransGen.single hecho).tail hlaunch
    · have hasks : isBlankLine (h.prompt, b) = !isBreak (h.prompt, b) := by
        simp [isBlankLine, isBreak, hidle, hk, hempty]
      have hready := Move.reprompt (h := { h with
        stream := h.stream ++ [.told (.echo (echo ++ utf8 "\r\n"))] }) hlive hidle hasks
      simpa [press, hk, enter, hempty, History.after, reports, launched] using
        (ReflTransGen.single hecho).tail hready
  · have hasks : isBlankLine (h.prompt, b) = !isBreak (h.prompt, b) := by
      simp [isBlankLine, isBreak, hidle, hk]
    have hecho := Move.echo hlive hidle (echo ++ utf8 "^C\r\n")
    have hready := Move.reprompt (h := { h with
      stream := h.stream ++ [.told (.echo (echo ++ utf8 "^C\r\n"))] }) hlive hidle hasks
    simpa [press, hk, History.after, reports, launched] using
      (ReflTransGen.single hecho).tail hready
  · have hedit := Move.edit (b := b) hlive hidle (by simp [isBlankLine, hk])
      (by simp [isCommandLine, hk]) (by simp [isBreak, hk])
    rcases hempty : h.prompt.line.isEmpty with _ | _
    · simpa [press, hk, hempty, History.after, reports, launched] using
        ReflTransGen.single (hedit h.prompt.line.dropLast)
    · simpa [press, hk, hempty, History.after, reports, launched] using
        ReflTransGen.single (hedit h.prompt.line)
  · have hedit := Move.edit (b := b) hlive hidle (by simp [isBlankLine, hk])
      (by simp [isCommandLine, hk]) (by simp [isBreak, hk]) (h.prompt.line ++ [b])
    simpa [press, hk, History.after, reports, launched] using ReflTransGen.single hedit

@[simp] lemma press_stopped (starts : Launcher) (p : Prompt) (echo : Bytes) (b : UInt8) :
    (p.press starts echo b).1.stopped = p.stopped := by
  unfold press
  rcases Key.ofByte b with _ | _ | _ | _
  · simp only [enter, launch]
    split
    · rfl
    · split <;> rfl
  · rfl
  · simp only
    split <;> rfl
  · rfl

/-- A key that starts a task leaves no echo to be shown. -/
lemma press_echo {p : Prompt} (hidle : p.running = none) (starts : Launcher) (echo : Bytes)
    (b : UInt8) (hrun : (p.press starts echo b).1.running.isSome = true) :
    (p.press starts echo b).2.1 = [] := by
  rcases hk : Key.ofByte b with _ | _ | _ | _
  · simp [press, hk]
  · simp [press, hk]
  · rcases hline : p.line.isEmpty with _ | _ <;> simp [press, hk, hline, hidle] at hrun
  · simp [press, hk, hidle] at hrun

lemma moves_flush (hlive : h.prompt.stopped = false) {echo : Bytes}
    (hecho : h.prompt.running.isSome = true → echo = []) :
    ReflTransGen Move h (h.after (h.prompt, flush echo) []) := by
  rcases echo with _ | ⟨b, echo⟩
  · rw [show flush [] = [] from rfl, after_nil]
  · have hidle : h.prompt.running = none := by
      rcases hrun : h.prompt.running with _ | task
      · rfl
      · simp [hrun] at hecho
    have hmove := Move.echo hlive hidle (b :: echo)
    simpa [flush, History.after, reports, launched] using ReflTransGen.single hmove

/-- What is passed on to a task is not told to the session. -/
lemma quiet_forward (p : Prompt) (task : Running) (bytes : Bytes) :
    reports (p.forward task bytes).2 = [] ∧ launched (p.forward task bytes).2 = [] := by
  rw [forward]
  obtain ⟨before, interrupted⟩ := untilInterrupt bytes
  rcases before with _ | ⟨b, before⟩ <;> cases interrupted <;> exact ⟨rfl, rfl⟩

lemma after_forward (h : History) (task : Running) (bytes : Bytes)
    (keys : List (Prompt × UInt8)) :
    h.after (h.prompt.forward task bytes) keys =
      { h with
        prompt := { h.prompt with
          running := some { task with
            interrupted := task.interrupted || bytes.any (Key.ofByte · == .interrupt) } }
        keys := h.keys ++ keys } := by
  simp only [History.after, quiet_forward, List.append_nil]
  rfl

/-- A chunk is taken byte by byte at the prompt, until a task runs; the rest goes to the task. -/
lemma moves_type (hlive : h.prompt.stopped = false) {echo : Bytes}
    (hecho : h.prompt.running.isSome = true → echo = []) (starts : Launcher) (bytes : Bytes) :
    ReflTransGen Move h
      (h.after (h.prompt.type starts echo bytes) (handled starts h.prompt bytes)) := by
  induction bytes generalizing h echo with
  | nil => exact moves_flush hlive hecho
  | cons b rest ih =>
    rcases hrun : h.prompt.running with _ | task
    · have hpress := moves_press hlive hrun starts echo b
      have hnext := ih (h := h.after ((h.prompt.press starts echo b).1,
        (h.prompt.press starts echo b).2.2) [(h.prompt, b)]) (by simpa [History.after] using hlive)
        (press_echo hrun starts echo b)
      have hkeys : handled starts h.prompt (b :: rest) =
          [(h.prompt, b)] ++ handled starts (h.prompt.press starts echo b).1 rest := by
        simp [handled, hrun, press_fst starts h.prompt echo b]
      have hacts : h.prompt.type starts echo (b :: rest) =
          (((h.prompt.press starts echo b).1.type starts (h.prompt.press starts echo b).2.1 rest).1,
            (h.prompt.press starts echo b).2.2 ++
              ((h.prompt.press starts echo b).1.type starts
                (h.prompt.press starts echo b).2.1 rest).2) := by
        rw [type, hrun]
      rw [hkeys, hacts, ← after_after]
      exact hpress.trans hnext
    · -- The task gets the rest of the chunk, and there is no echo left to be shown.
      have hmove := Move.forward hlive hrun (b :: rest)
      have hnone : echo = [] := hecho (by simp [hrun])
      have hacts : h.prompt.type starts echo (b :: rest) = h.prompt.forward task (b :: rest) := by
        rw [type, hrun, hnone]
        simp [flush]
      rw [hacts, handled_of_running (by simp [hrun]), after_forward]
      exact .single hmove

/-- A command is a sequence of moves. -/
lemma moves_take (h : History) (command : Engine.Command) (starts : Launcher) :
    ReflTransGen Move h (h.step (.take command starts)) := by
  simp only [History.step, react]
  rcases hlive : h.prompt.stopped with _ | _
  · cases command with
    | input bytes =>
      simp only [typed, hlive]
      exact moves_type hlive (fun _ => rfl) starts bytes
    | resize cols rows =>
      have hmove := Move.resize (h := h) cols rows
      rcases hrun : h.prompt.running with _ | task
      · simpa [typed, History.after, reports, launched, hrun, hlive] using
          ReflTransGen.single hmove
      · simpa [typed, History.after, reports, launched, hrun, hlive] using
          ReflTransGen.single hmove
    | shutdown =>
      have hmove := Move.stop (h := h)
      rcases hrun : h.prompt.running with _ | task
      · simpa [typed, History.after, reports, launched, hrun, hlive] using
          ReflTransGen.single hmove
      · simpa [typed, History.after, reports, launched, hrun, hlive] using
          ReflTransGen.single hmove
  · have hnone : typed starts h.prompt command = [] := by
      cases command <;> simp [typed, hlive]
    rw [if_pos rfl, hnone, after_nil]

/-- **Whatever happens to a prompt is a sequence of moves.** -/
theorem moves_step (h : History) (op : Operation) : ReflTransGen Move h (h.step op) := by
  cases op with
  | take command starts => exact moves_take h command starts
  | write task bytes =>
    simp only [History.step]
    split
    · next hreads => exact .single (.write hreads bytes)
    · exact .refl
  | exit task success =>
    simp only [History.step]
    split
    · next hreads => exact .single (.exit hreads success)
    · exact .refl
  | notice task success =>
    simp only [History.step]
    split
    · next hnotice =>
      rcases hrun : h.prompt.running with _ | running
      · simp only [finish, hrun]
        rw [after_nil]
      · by_cases hsame : running.task = task
        · subst hsame
          have hexit := hnotice.resolve_right (by simp [hrun])
          simpa [finish, hrun, History.after, reports, launched] using
            ReflTransGen.single (Move.finish hrun hexit)
        · -- A notice of another task is stale.
          simp only [finish, hrun, if_neg hsame]
          rw [after_nil]
    · exact .refl
  | skip n => exact .single (.skip n)

lemma moves_run (h : History) (ops : List Operation) : ReflTransGen Move h (h.run ops) := by
  induction ops generalizing h with
  | nil => exact .refl
  | cons op ops ih => exact (moves_step h op).trans (ih (h.step op))

end SharedTerminal.Prompt
