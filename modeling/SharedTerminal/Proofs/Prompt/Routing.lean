import SharedTerminal.Proofs.Prompt.Chunking
import SharedTerminal.Proofs.Prompt.Readiness
import Mathlib.Data.List.DropRight

/-!
# Where typed bytes go

A byte that is typed is edited into a line, or passed on to the task that runs, or dropped.  Which
of these depends on whether a task runs when the byte is taken, and a task may start in the middle
of a chunk.  `IsRouted` tells how a chunk is split in order: the bytes that are edited at the
prompt come first, up to the one that starts a task if there is one; then those that go to the task;
then the interrupt, and what is dropped after it.

A line is a matter of the edited bytes alone.  `lineAfter` reads it off all bytes that were ever
edited, and `commandLines` reads off the lines that are to be started.  The line of the prompt is
always what the bytes edited so far leave (`line_run`), so that nothing that was typed while a task
ran is found in a line later.  The main statement is `run_routing`.
-/

namespace SharedTerminal.Prompt

/-! ## Lines -/

/-- Whether nothing before a byte belongs to the line any more. -/
def endsLine (b : UInt8) : Bool := Key.ofByte b == .enter || Key.ofByte b == .interrupt

/-- The bytes after the last end of a line or interrupt. -/
def sinceLineEnd (edited : Bytes) : Bytes := edited.rtakeWhile (!endsLine ·)

/-- What remains of some bytes when each erasing byte removes the last one that still remains. -/
def remaining (bytes : Bytes) : Bytes :=
  bytes.foldl (fun line b => if Key.ofByte b == .erase then line.dropLast else line ++ [b]) []

/-- The line that some edited bytes leave. -/
def lineAfter (edited : Bytes) : Bytes := remaining (sinceLineEnd edited)

/-- The lines that are to be started among some bytes, which are edited after others. -/
def commandLines (earlier : Bytes) : Bytes → List String
  | [] => []
  | b :: rest =>
    let line := String.ofList (Blank.trim (Utf8.decodeLossy (lineAfter earlier)))
    (if Key.ofByte b == .enter && !line.isEmpty then [line] else []) ++
      commandLines (earlier ++ [b]) rest

/-- What comes of a line that is to be started as the task with a number. -/
def attempt (starts : Launcher) (task : Nat) (line : String) : Act :=
  match starts task line with
  | .ok () => .launch task line
  | .error e => .tell (.refusal task (utf8 (e.message ++ "\r\n")))

/-- What comes of lines that are to be started one after another. -/
def attempts (starts : Launcher) (task : Nat) : List String → List Act
  | [] => []
  | line :: lines => attempt starts task line :: attempts starts (task + 1) lines

/-- An act starts a task, tells why one cannot be started, or gives the one that runs something. -/
def Act.isForTask : Act → Bool
  | .launch .. | .type _ | .kill | .tell (.refusal ..) => true
  | .tell .ready | .tell (.echo _) | .tell (.status ..) | .resize .. => false

/-! ## The parts of a chunk -/

/-- The parts of a chunk, in their order. -/
structure Parts where
  /-- What is edited at the prompt. -/
  edited : Bytes
  /-- What is passed on to the task that runs. -/
  passed : Bytes
  /-- The interrupt of that task, if there is one. -/
  interrupt : Option UInt8
  /-- What comes after it. -/
  dropped : Bytes

/-- A prompt at which some bytes were edited before takes a chunk by its parts. -/
structure IsRouted (starts : Launcher) (p : Prompt) (earlier bytes : Bytes)
    (result : Prompt × List Act) (parts : Parts) : Prop where
  /-- Every byte is in one of the parts. -/
  split : bytes = parts.edited ++ parts.passed ++ parts.interrupt.toList ++ parts.dropped
  /-- What is passed on ends before the first interrupt. -/
  passed : ∀ b ∈ parts.passed, Key.ofByte b ≠ .interrupt
  /-- The task that runs is interrupted by interrupts only. -/
  interrupt : ∀ b ∈ parts.interrupt, Key.ofByte b = .interrupt
  /-- Nothing is dropped before an interrupt. -/
  dropped : parts.interrupt = none → parts.dropped = []
  /-- The edited bytes leave the line. -/
  line : result.1.line = lineAfter (earlier ++ parts.edited)
  /-- The lines among the edited bytes are tried in their order; then the task that runs gets what
  is passed on, and it is ended if there is an interrupt. -/
  acts : result.2.filter Act.isForTask =
    attempts starts p.next (commandLines earlier parts.edited) ++
      ((if parts.passed.isEmpty then [] else [.type parts.passed]) ++
        if parts.interrupt.isSome then [.kill] else [])
  /-- While a task runs nothing is edited. -/
  running : ∀ task, p.running = some task → parts.edited = [] ∧ result.1.running =
    some { task with interrupted := task.interrupted || parts.interrupt.isSome }
  /-- At the prompt everything is edited and no task is started, or the last byte that is edited
  ends the first line that can be started. -/
  idle : p.running = none →
    (parts.edited = bytes ∧ launched result.2 = [] ∧ result.1.running = none) ∨
      ∃ front b, parts.edited = front ++ [b] ∧ Key.ofByte b = .enter ∧
        let line := String.ofList (Blank.trim (Utf8.decodeLossy (lineAfter (earlier ++ front))))
        let task := p.next + (commandLines earlier front).length
        line.isEmpty = false ∧ starts task line = .ok () ∧ launched result.2 = [task] ∧
          result.1.running = some ⟨task, parts.interrupt.isSome⟩

namespace History

/-- The bytes that were edited at the prompt so far. -/
def edited (h : History) : Bytes := (edits h.keys).map Prod.snd

end History

variable {starts : Launcher} {p : Prompt} {task : Running} {earlier : Bytes} {b : UInt8}

/-! ## One byte more -/

lemma lineAfter_enter (hk : Key.ofByte b = .enter) (edited : Bytes) :
    lineAfter (edited ++ [b]) = [] := by
  simp [lineAfter, sinceLineEnd, endsLine, hk, remaining]

lemma lineAfter_interrupt (hk : Key.ofByte b = .interrupt) (edited : Bytes) :
    lineAfter (edited ++ [b]) = [] := by
  simp [lineAfter, sinceLineEnd, endsLine, hk, remaining]

lemma lineAfter_erase (hk : Key.ofByte b = .erase) (edited : Bytes) :
    lineAfter (edited ++ [b]) = (lineAfter edited).dropLast := by
  simp [lineAfter, sinceLineEnd, endsLine, hk, remaining]

lemma lineAfter_other (hk : Key.ofByte b = .other) (edited : Bytes) :
    lineAfter (edited ++ [b]) = lineAfter edited ++ [b] := by
  simp [lineAfter, sinceLineEnd, endsLine, hk, remaining]

/-- **A key takes the line of the bytes before it to the line of the bytes with it.** -/
theorem line_press (starts : Launcher) (echo : Bytes) (hline : p.line = lineAfter earlier)
    (b : UInt8) : (p.press starts echo b).1.line = lineAfter (earlier ++ [b]) := by
  rcases hk : Key.ofByte b with _ | _ | _ | _
  · rw [lineAfter_enter hk]
    simp only [press, hk, enter, launch]
    split
    · rfl
    · split <;> rfl
  · simp [press, hk, lineAfter_interrupt hk]
  · rw [lineAfter_erase hk, ← hline]
    rcases hempty : p.line.isEmpty with _ | _
    · simp [press, hk, hempty]
    · rw [List.isEmpty_iff] at hempty
      simp [press, hk, hempty]
  · simp [press, hk, lineAfter_other hk, hline]

/-- A single byte ends a line that is to be started, or it does not. -/
lemma commandLines_singleton (earlier : Bytes) (b : UInt8) :
    commandLines earlier [b] =
      if Key.ofByte b == .enter && !(lineText (lineAfter earlier)).isEmpty then
        [lineText (lineAfter earlier)] else [] := by
  rw [commandLines, commandLines, List.append_nil]
  rfl

lemma commandLines_of_ne_enter (hk : Key.ofByte b ≠ .enter) (earlier : Bytes) :
    commandLines earlier [b] = [] := by
  simp [commandLines, hk]

lemma commandLines_cons (earlier rest : Bytes) (b : UInt8) :
    commandLines earlier (b :: rest) =
      commandLines earlier [b] ++ commandLines (earlier ++ [b]) rest := by
  simp [commandLines]

lemma attempts_append (starts : Launcher) (task : Nat) (lines more : List String) :
    attempts starts task (lines ++ more) =
      attempts starts task lines ++ attempts starts (task + lines.length) more := by
  induction lines generalizing task with
  | nil => rfl
  | cons line lines ih =>
    rw [List.cons_append, attempts, ih, attempts, List.length_cons, Nat.add_right_comm,
      Nat.add_assoc, List.cons_append]

/-- A key tries the line that it ends, if it ends one. -/
lemma acts_press (starts : Launcher) (echo : Bytes) (hline : p.line = lineAfter earlier)
    (b : UInt8) :
    (p.press starts echo b).2.2.filter Act.isForTask =
        attempts starts p.next (commandLines earlier [b]) ∧
      (p.press starts echo b).1.next = p.next + (commandLines earlier [b]).length := by
  by_cases hk : Key.ofByte b = .enter
  · rcases hempty : (lineText p.line).isEmpty with _ | _
    · rcases hs : starts p.next (lineText p.line) with e | u <;>
        simp [press, hk, enter, hempty, launch, hs, commandLines_singleton, ← hline, attempts,
          attempt, List.filter_cons, Act.isForTask]
    · simp [press, hk, enter, hempty, commandLines_singleton, ← hline, attempts, Act.isForTask]
  · -- No other key tries a line.
    rw [commandLines_of_ne_enter hk]
    rcases hother : Key.ofByte b with _ | _ | _ | _
    · exact absurd hother hk
    · simp [press, hother, attempts, Act.isForTask]
    · rcases hempty : p.line.isEmpty with _ | _ <;> simp [press, hother, hempty, attempts]
    · simp [press, hother, attempts]

/-- A key leaves the prompt idle, or it ends a line that can be started. -/
lemma running_press (hidle : p.running = none) (starts : Launcher) (echo : Bytes) (b : UInt8) :
    let result := p.press starts echo b
    (result.1.running = none ∧ launched result.2.2 = []) ∨
      (Key.ofByte b = .enter ∧ (lineText p.line).isEmpty = false ∧
        starts p.next (lineText p.line) = .ok () ∧ launched result.2.2 = [p.next] ∧
        result.1.running = some ⟨p.next, false⟩) := by
  intro result
  rcases hk : Key.ofByte b with _ | _ | _ | _
  · rcases hempty : (lineText p.line).isEmpty with _ | _
    · rcases hs : starts p.next (lineText p.line) with e | u
      · left
        simp [result, press, hk, enter, hempty, launch, hs, launched, hidle]
      · right
        simp [result, press, hk, enter, hempty, launch, hs, launched]
    · left
      simp [result, press, hk, enter, hempty, launched, hidle]
  · left
    simp [result, press, hk, launched, hidle]
  · left
    rcases hempty : p.line.isEmpty with _ | _ <;>
      simp [result, press, hk, hempty, launched, hidle]
  · left
    simp [result, press, hk, launched, hidle]

/-! ## One chunk -/

lemma launched_filter (acts : List Act) :
    launched (acts.filter Act.isForTask) = launched acts := by
  induction acts with
  | nil => rfl
  | cons act acts ih =>
    simp only [launched] at ih ⊢
    rcases act with ((_ | _ | _ | _) | _ | _ | _ | _) <;>
      simpa [List.filter_cons, Act.isForTask] using ih

lemma filter_flush (echo : Bytes) : (flush echo).filter Act.isForTask = [] := by
  cases echo <;> rfl

/-- Bytes are split at their first interrupt. -/
lemma split_untilInterrupt (bytes : Bytes) :
    (∀ b ∈ (untilInterrupt bytes).1, Key.ofByte b ≠ .interrupt) ∧
      ((bytes = (untilInterrupt bytes).1 ∧ (untilInterrupt bytes).2 = false) ∨
        ∃ b dropped, bytes = (untilInterrupt bytes).1 ++ b :: dropped ∧
          Key.ofByte b = .interrupt ∧ (untilInterrupt bytes).2 = true) := by
  refine ⟨fun b hb => by simpa using List.mem_takeWhile_imp hb, ?_⟩
  have hwhole : (untilInterrupt bytes).1 ++
      bytes.dropWhile (fun b => Key.ofByte b != .interrupt) = bytes :=
    List.takeWhile_append_dropWhile
  rcases hrest : bytes.dropWhile fun b => Key.ofByte b != .interrupt with _ | ⟨b, dropped⟩
  · left
    rw [hrest, List.append_nil] at hwhole
    rw [List.dropWhile_eq_nil_iff] at hrest
    exact ⟨hwhole.symm, by simpa [untilInterrupt] using hrest⟩
  · right
    have hb : Key.ofByte b = .interrupt := by
      have hhead := List.head?_dropWhile_not (fun b => Key.ofByte b != .interrupt) bytes
      simpa [hrest] using hhead
    rw [hrest] at hwhole
    refine ⟨b, dropped, hwhole.symm, hb, ?_⟩
    rw [← hwhole]
    simp [untilInterrupt, hb]

/-- **What is typed while a task runs goes to the task**, up to the first interrupt. -/
theorem isRouted_forward (hrun : p.running = some task) (starts : Launcher)
    (hline : p.line = lineAfter earlier) (bytes : Bytes) :
    ∃ parts, IsRouted starts p earlier bytes (p.forward task bytes) parts ∧ parts.edited = [] := by
  have hidle : p.running ≠ none := by simp [hrun]
  obtain ⟨hpassed, ⟨hsplit, hnone⟩ | ⟨b, dropped, hsplit, hb, hsome⟩⟩ := split_untilInterrupt bytes
  · refine ⟨⟨[], (untilInterrupt bytes).1, none, []⟩, ⟨?_, hpassed, ?_, fun _ => rfl, ?_, ?_, ?_,
      fun h => absurd h hidle⟩, rfl⟩
    · simpa using hsplit
    · simp
    · simp [forward, hline]
    · rcases hempty : (untilInterrupt bytes).1.isEmpty with _ | _ <;>
        simp [forward, hnone, hempty, attempts, commandLines, Act.isForTask]
    · intro other hother
      obtain rfl : task = other := by simpa [hrun] using hother
      simp [forward, hnone]
  · refine ⟨⟨[], (untilInterrupt bytes).1, some b, dropped⟩, ⟨?_, hpassed, ?_, ?_, ?_, ?_, ?_,
      fun h => absurd h hidle⟩, rfl⟩
    · simpa using hsplit
    · simpa using hb
    · simp
    · simp [forward, hline]
    · rcases hempty : (untilInterrupt bytes).1.isEmpty with _ | _ <;>
        simp [forward, hsome, hempty, attempts, commandLines, Act.isForTask]
    · intro other hother
      obtain rfl : task = other := by simpa [hrun] using hother
      simp [forward, hsome]

/-- Nothing is started while a task runs. -/
lemma IsRouted.launched_eq_nil {bytes : Bytes} {result : Prompt × List Act} {parts : Parts}
    (h : IsRouted starts p earlier bytes result parts) (hrun : p.running = some task) :
    launched result.2 = [] := by
  rw [← launched_filter, h.acts, (h.running task hrun).1]
  rcases parts.passed.isEmpty with _ | _ <;> rcases parts.interrupt.isSome with _ | _ <;> rfl

/-- A key at the prompt goes before the parts of what is typed after it. -/
lemma IsRouted.cons {echo rest : Bytes} {result : Prompt × List Act} {parts : Parts}
    (hidle : p.running = none) (hline : p.line = lineAfter earlier)
    (h : IsRouted starts (p.press starts echo b).1 (earlier ++ [b]) rest result parts) :
    IsRouted starts p earlier (b :: rest) (result.1, (p.press starts echo b).2.2 ++ result.2)
      { parts with edited := b :: parts.edited } := by
  obtain ⟨hacts, hnext⟩ := acts_press starts echo hline b
  refine ⟨by simp [h.split], h.passed, h.interrupt, h.dropped, by simp [h.line], ?_,
    fun task hrun => by simp [hidle] at hrun, fun _ => ?_⟩
  · rw [List.filter_append, hacts, h.acts, hnext]
    simp only [commandLines_cons earlier parts.edited, attempts_append, List.append_assoc]
  · have hlaunched : launched ((p.press starts echo b).2.2 ++ result.2) =
        launched (p.press starts echo b).2.2 ++ launched result.2 := List.filterMap_append ..
    rcases running_press hidle starts echo b with
      ⟨hstill, hnone⟩ | ⟨hk, hblank, hstarts, hone, hrun⟩
    · rcases h.idle hstill with ⟨hall, hquiet, hafter⟩ | ⟨front, last, hedited, hk, hlast⟩
      · left
        exact ⟨by rw [hall], by rw [hlaunched, hnone, hquiet]; rfl, hafter⟩
      · -- The line that is started ends later in the chunk.
        right
        refine ⟨b :: front, last, by rw [hedited]; rfl, hk, ?_⟩
        rw [commandLines_cons, List.length_append, ← Nat.add_assoc, ← hnext, hlaunched, hnone,
          List.append_cons]
        exact hlast
    · -- The key starts a task, so that nothing more is edited.
      right
      obtain ⟨hedited, hafter⟩ := h.running _ hrun
      refine ⟨[], b, by rw [hedited]; rfl, hk, ?_⟩
      simp only [List.append_nil, commandLines, List.length_nil, Nat.add_zero, ← hline]
      refine ⟨hblank, hstarts, ?_, by simpa using hafter⟩
      rw [hlaunched, hone, h.launched_eq_nil hrun, List.append_nil]

/-- **A chunk is taken by its parts.** -/
theorem isRouted_type {echo : Bytes} (hecho : p.running.isSome = true → echo = [])
    (starts : Launcher) (hline : p.line = lineAfter earlier) (bytes : Bytes) :
    ∃ parts, IsRouted starts p earlier bytes (p.type starts echo bytes) parts ∧
      (edits (handled starts p bytes)).map Prod.snd = parts.edited := by
  induction bytes generalizing p echo earlier with
  | nil =>
    refine ⟨⟨[], [], none, []⟩, ⟨rfl, by simp, by simp, fun _ => rfl, ?_, ?_, ?_, ?_⟩, rfl⟩
    · simpa [type] using hline
    · simp [type, filter_flush, attempts, commandLines]
    · intro task hrun
      simp [type, hrun]
    · intro hidle
      have hquiet : launched (flush echo) = [] := by cases echo <;> rfl
      exact Or.inl ⟨rfl, hquiet, hidle⟩
  | cons b rest ih =>
    rcases hrun : p.running with _ | task
    · obtain ⟨parts, hparts, hedits⟩ :=
        ih (press_echo hrun starts echo b) (line_press starts echo hline b)
      rw [type_of_idle hrun]
      refine ⟨_, hparts.cons hrun hline, ?_⟩
      rw [press_fst] at hedits
      simp [handled, hrun, edits, ← hedits]
    · -- There is no echo left to be shown, and the task gets the rest of the chunk.
      obtain rfl := hecho (by simp [hrun])
      obtain ⟨parts, hparts, hnone⟩ := isRouted_forward hrun starts hline (b :: rest)
      rw [type_of_running hrun]
      refine ⟨parts, hparts, ?_⟩
      rw [edits_handled_of_running hrun, hnone]
      rfl

/-! ## Whole runs -/

namespace History

@[simp] lemma edited_after (h : History) (result : Prompt × List Act)
    (keys : List (Prompt × UInt8)) :
    (h.after result keys).edited = h.edited ++ (edits keys).map Prod.snd := by
  simp [edited, after]

end History

/-- Of the operations only chunks of input are edited. -/
lemma edited_step_of_ne_input (h : History) {op : Operation}
    (hop : ∀ bytes starts, op ≠ .take (.input bytes) starts) :
    (h.step op).edited = h.edited ∧ (h.step op).prompt.line = h.prompt.line := by
  cases op with
  | take command starts =>
    cases command with
    | input bytes => exact absurd rfl (hop bytes starts)
    | resize cols rows =>
      simp only [History.step, History.edited_after, typed, react]
      split <;> simp [edits, History.after]
    | shutdown =>
      simp only [History.step, History.edited_after, typed, react]
      split <;> simp [edits, History.after]
  | write task bytes =>
    simp only [History.step]
    split <;> exact ⟨rfl, rfl⟩
  | exit task success =>
    simp only [History.step]
    split <;> exact ⟨rfl, rfl⟩
  | notice task success =>
    simp only [History.step]
    split
    · simp only [History.edited_after, finish]
      split
      · simp [edits, History.after]
      · split <;> simp [edits, History.after]
    · exact ⟨rfl, rfl⟩
  | skip n => exact ⟨rfl, rfl⟩

/-- A chunk of input is taken by its parts, and the first of them is edited. -/
lemma isRouted_step {h : History} (hline : h.prompt.line = lineAfter h.edited)
    (hlive : h.prompt.stopped = false) (starts : Launcher) (bytes : Bytes) :
    ∃ parts, IsRouted starts h.prompt h.edited bytes (h.prompt.react starts (.input bytes)) parts ∧
      (h.step (.take (.input bytes) starts)).edited = h.edited ++ parts.edited := by
  obtain ⟨parts, hparts, hedits⟩ := isRouted_type (fun _ => rfl) starts hline bytes
  refine ⟨parts, by simpa [react, hlive] using hparts, ?_⟩
  simp [History.step, typed, hlive, hedits]

/-- **The line is always what the edited bytes leave.** -/
theorem line_step {h : History} (hline : h.prompt.line = lineAfter h.edited) (op : Operation) :
    (h.step op).prompt.line = lineAfter (h.step op).edited := by
  by_cases hop : ∃ bytes starts, op = .take (.input bytes) starts
  · obtain ⟨bytes, starts, rfl⟩ := hop
    rcases hstop : h.prompt.stopped with _ | _
    · obtain ⟨parts, hparts, hedited⟩ := isRouted_step hline hstop starts bytes
      rw [hedited]
      exact hparts.line
    · simpa [History.step, react, typed, hstop, History.after, History.edited] using hline
  · -- Nothing else edits anything.
    have hother : ∀ bytes starts, op ≠ .take (.input bytes) starts :=
      fun bytes starts heq => hop ⟨bytes, starts, heq⟩
    obtain ⟨hedited, hsame⟩ := edited_step_of_ne_input h hother
    rw [hedited, hsame, hline]

lemma line_run {h : History} (hline : h.prompt.line = lineAfter h.edited) (ops : List Operation) :
    (h.run ops).prompt.line = lineAfter (h.run ops).edited := by
  induction ops generalizing h with
  | nil => exact hline
  | cons op ops ih => exact ih (line_step hline op)

/-- **Every typed byte goes one way.**  At any time in the life of a prompt nothing is on the line
while a task runs, and else the line is what the bytes edited at the prompt since the last end of a
line or interrupt leave, each erasing byte removing the last one before it.  A chunk of input is
split in order into what is edited, what is passed on to the task that runs, its interrupt, and what
is dropped; only the first of these is ever edited into a line, and the lines that are started are
the texts of such lines. -/
theorem run_routing (first : Nat) (ops : List Operation) :
    let h := (History.start first).run ops
    (h.prompt.running.isSome = true → h.prompt.line = []) ∧
    h.prompt.line = lineAfter h.edited ∧
    (∀ op, (∀ bytes starts, op ≠ .take (.input bytes) starts) → (h.step op).edited = h.edited) ∧
    ∀ starts bytes, h.prompt.stopped = false →
      ∃ parts, IsRouted starts h.prompt h.edited bytes
          (h.prompt.react starts (.input bytes)) parts ∧
        (h.step (.take (.input bytes) starts)).edited = h.edited ++ parts.edited := by
  intro h
  have hline : h.prompt.line = lineAfter h.edited := line_run (h := History.start first) rfl ops
  exact ⟨isCleared_run first ops, hline, fun op hop => (edited_step_of_ne_input h hop).1,
    fun starts bytes hlive => isRouted_step hline hlive starts bytes⟩

/-- A chunk with a line in which a byte was erased, an answer to its task, an interrupt, and what is
dropped after it. -/
example :
    ((Prompt.start 1).1.react (fun _ _ => .ok ())
      (.input (utf8 "lx\x08s\nyes\x03no"))).2.filter Act.isForTask =
    [.launch 1 "ls", .type (utf8 "yes"), .kill] := by
  decide +kernel

end SharedTerminal.Prompt
