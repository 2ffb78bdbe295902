import SharedTerminal.Proofs.Prompt.Operation

/-!
# Input in chunks

What is typed comes in chunks, and the chunks are cut anywhere: a line may come in one of them or
byte by byte.  The cut is visible.  What is shown of the typed bytes is shown where a line or a
chunk ends, and what is passed on to a task is passed on chunk by chunk; after an interrupt the rest
of the chunk is dropped, but the next chunk is not.

Nothing else depends on the cut.  `gist` is what acts come to when the places of the cuts are
forgotten: output is run together up to the next change of status, and what goes to the task is run
together up to the first interrupt.  The main statement, `takeChunks_congr`, says that two ways to
cut the same bytes have the same gist, lead to the same prompt, and start the same lines on the way.
It follows from what happens when one chunk is cut once (`type_append`).  There the echo is what
must be kept in view: the first part shows it at its end, the whole chunk carries it on
(`type_carry`).
-/

namespace SharedTerminal.Prompt

/-! ## What is compared -/

/-- What a prompt does with one chunk after another. -/
def takeChunks (starts : Launcher) (p : Prompt) : List Bytes → Prompt × List Act
  | [] => (p, [])
  | chunk :: chunks =>
    let (q, acts) := p.react starts (.input chunk)
    let (r, more) := q.takeChunks starts chunks
    (r, acts ++ more)

/-- The bytes of some chunks, each with the prompt as it is when the byte is taken. -/
def typedIn (starts : Launcher) (p : Prompt) : List Bytes → List (Prompt × UInt8)
  | [] => []
  | chunk :: chunks =>
    typed starts p (.input chunk) ++ typedIn starts (p.react starts (.input chunk)).1 chunks

/-- The bytes that are taken while no task runs. -/
def edits (keys : List (Prompt × UInt8)) : List (Prompt × UInt8) :=
  keys.filter (·.1.running.isNone)

/-- The lines that are to be started as tasks, with the numbers of the tasks, whether they can be
started or not. -/
def tried (keys : List (Prompt × UInt8)) : List (Nat × String) :=
  (keys.filter isCommandLine).map fun key => (key.1.next, lineText key.1.line)

/-- What some acts come to. -/
structure Gist where
  /-- The lines that are started, with the numbers of their tasks. -/
  launches : List (Nat × String)
  /-- The output before the first change of status, run together. -/
  first : Bytes
  /-- The changes of status, each with the output up to the next one, run together. -/
  later : List ((Nat × Task.Status × Task.Status) × Bytes)
  /-- The bytes for the task that runs, up to its first interrupt, run together. -/
  passed : Bytes
  /-- Whether the task that runs is interrupted. -/
  killed : Bool
  /-- The sizes that the terminal is given. -/
  sizes : List (UInt16 × UInt16)
deriving DecidableEq, Repr

namespace Gist

/-- No act at all. -/
def empty : Gist := ⟨[], [], [], [], false, []⟩

/-- Some output goes first. -/
def shows (bytes : Bytes) (g : Gist) : Gist := { g with first := bytes ++ g.first }

/-- An act goes first. -/
def before (act : Act) (g : Gist) : Gist :=
  match act with
  | .tell report =>
    match report.event with
    | .output bytes => g.shows bytes
    | .status task f t => { g with first := [], later := ((task, f, t), g.first) :: g.later }
  | .launch task line => { g with launches := (task, line) :: g.launches }
  | .type bytes => { g with passed := bytes ++ g.passed }
  | .kill => { g with passed := [], killed := true }
  | .resize cols rows => { g with sizes := (cols, rows) :: g.sizes }

end Gist

/-- What some acts come to, from the first of them on. -/
def gist (acts : List Act) : Gist := acts.foldr Gist.before .empty

variable {starts : Launcher} {p : Prompt} {task : Running} {bytes : Bytes} {acts more : List Act}

@[simp] lemma Gist.shows_nil (g : Gist) : g.shows [] = g := rfl

@[simp] lemma Gist.shows_shows (s t : Bytes) (g : Gist) :
    (g.shows t).shows s = g.shows (s ++ t) := by
  simp [shows]

@[simp] lemma gist_cons (act : Act) (acts : List Act) :
    gist (act :: acts) = (gist acts).before act := rfl

@[simp] lemma before_echo (echo : Bytes) (g : Gist) :
    g.before (.tell (.echo echo)) = g.shows echo := rfl

/-- What comes after some acts matters only for what it comes to itself. -/
lemma gist_append_congr (acts : List Act) {others : List Act} (h : gist more = gist others) :
    gist (acts ++ more) = gist (acts ++ others) := by
  simp only [gist, List.foldr_append] at h ⊢
  rw [h]

@[simp] lemma gist_flush_append (echo : Bytes) (acts : List Act) :
    gist (flush echo ++ acts) = (gist acts).shows echo := by
  cases echo <;> simp [flush]

/-! ## The echo of a chunk -/

/-- A key that is taken with a longer echo either shows all of it at once, or leaves all of it to
be shown. -/
lemma press_carry (hidle : p.running = none) (starts : Launcher) (front echo : Bytes)
    (b : UInt8) :
    let short := p.press starts echo b
    let long := p.press starts (front ++ echo) b
    (∃ shown acts, short.2 = ([], .tell (.echo shown) :: acts) ∧
        long.2 = ([], .tell (.echo (front ++ shown)) :: acts)) ∨
      (short.1.running = none ∧ short.2.2 = [] ∧ long.2 = (front ++ short.2.1, [])) := by
  intro short long
  rcases hk : Key.ofByte b with _ | _ | _ | _
  · left
    refine ⟨echo ++ utf8 "\r\n", ?_⟩
    rcases hempty : (lineText p.line).isEmpty with _ | _ <;>
      simp [short, long, press, hk, enter, hempty]
  · left
    exact ⟨echo ++ utf8 "^C\r\n", [.tell .ready], by simp [short, press, hk],
      by simp [long, press, hk]⟩
  · right
    rcases hempty : p.line.isEmpty with _ | _ <;>
      simp [short, long, press, hk, hempty, hidle]
  · right
    simp [short, long, press, hk, hidle]

lemma type_of_idle (hidle : p.running = none) (starts : Launcher) (echo : Bytes) (b : UInt8)
    (rest : Bytes) :
    p.type starts echo (b :: rest) =
      (((p.press starts echo b).1.type starts (p.press starts echo b).2.1 rest).1,
        (p.press starts echo b).2.2 ++
          ((p.press starts echo b).1.type starts (p.press starts echo b).2.1 rest).2) := by
  rw [type, hidle]

/-- **An echo that is carried into a chunk is shown first**, and changes nothing else. -/
theorem type_carry (hidle : p.running = none) (starts : Launcher) (front echo bytes : Bytes) :
    (p.type starts (front ++ echo) bytes).1 = (p.type starts echo bytes).1 ∧
      gist (p.type starts (front ++ echo) bytes).2 =
        (gist (p.type starts echo bytes).2).shows front := by
  induction bytes generalizing p echo with
  | nil =>
    refine ⟨rfl, ?_⟩
    have hlong := gist_flush_append (front ++ echo) []
    have hshort := gist_flush_append echo []
    simp only [List.append_nil] at hlong hshort
    simp only [type, hlong, hshort, Gist.shows_shows]
  | cons b rest ih =>
    rw [type_of_idle hidle, type_of_idle hidle]
    have hprompt : (p.press starts (front ++ echo) b).1 = (p.press starts echo b).1 :=
      (press_fst starts p _ b).trans (press_fst starts p echo b).symm
    rcases press_carry hidle starts front echo b with
      ⟨shown, acts, hshort, hlong⟩ | ⟨hstill, hshort, hlong⟩
    · -- All of the echo is shown, so that both ways go on alike.
      simp [hprompt, hshort, hlong]
    · rw [hprompt, hlong, hshort, List.nil_append, List.nil_append]
      exact ih hstill (p.press starts echo b).2.1

/-! ## One cut -/

lemma type_of_running (hrun : p.running = some task) (starts : Launcher) (bytes : Bytes) :
    p.type starts [] bytes = p.forward task bytes := by
  cases bytes with
  | nil =>
    obtain ⟨line, cols, rows, running, next, stopped⟩ := p
    subst hrun
    simp [type, flush, forward, untilInterrupt]
  | cons b rest => simp [type, hrun, flush]

/-- What is passed on goes before what is passed on later, unless there is an interrupt. -/
lemma gist_forward_append (p : Prompt) (task : Running) (bytes : Bytes) (acts : List Act) :
    gist ((p.forward task bytes).2 ++ acts) =
      { gist acts with
        passed := (untilInterrupt bytes).1 ++
          if (untilInterrupt bytes).2 then [] else (gist acts).passed
        killed := (untilInterrupt bytes).2 || (gist acts).killed } := by
  simp only [forward]
  obtain ⟨before, interrupted⟩ := untilInterrupt bytes
  cases before <;> cases interrupted <;> simp [Gist.before]

/-- Of two parts that are joined the second counts only if the first has no interrupt. -/
lemma untilInterrupt_append (xs ys : Bytes) :
    untilInterrupt (xs ++ ys) =
      ((untilInterrupt xs).1 ++ if (untilInterrupt xs).2 then [] else (untilInterrupt ys).1,
        (untilInterrupt xs).2 || (untilInterrupt ys).2) := by
  induction xs with
  | nil => simp [untilInterrupt]
  | cons b xs ih =>
    simp only [untilInterrupt, Prod.mk.injEq, bne] at ih ⊢
    rcases hb : Key.ofByte b == .interrupt with _ | _
    · simp only [List.cons_append, List.takeWhile_cons, List.any_cons, hb, Bool.not_false, if_true,
        Bool.false_or]
      exact ⟨congrArg (b :: ·) ih.1, ih.2⟩
    · simp [hb]

/-- Bytes that are cut in two go to the task that runs as they do whole. -/
lemma forward_append (p : Prompt) (task : Running) (xs ys : Bytes) :
    let now := p.forward task xs
    let cut := now.1.forward
      { task with interrupted := task.interrupted || (untilInterrupt xs).2 } ys
    (p.forward task (xs ++ ys)).1 = cut.1 ∧
      gist (p.forward task (xs ++ ys)).2 = gist (now.2 ++ cut.2) := by
  intro now cut
  constructor
  · simp [now, cut, forward, untilInterrupt_append, Bool.or_assoc]
  · have hwhole := gist_forward_append p task (xs ++ ys) []
    have hcut := gist_forward_append now.1
      { task with interrupted := task.interrupted || (untilInterrupt xs).2 } ys []
    rw [List.append_nil] at hwhole hcut
    rw [hwhole, gist_forward_append, hcut, untilInterrupt_append]
    cases (untilInterrupt xs).2 <;> simp

/-- **A chunk that is cut in two has the gist of the whole.** -/
theorem type_append {echo : Bytes} (hecho : p.running.isSome = true → echo = [])
    (starts : Launcher) (xs ys : Bytes) :
    let now := p.type starts echo xs
    let cut := now.1.type starts [] ys
    (p.type starts echo (xs ++ ys)).1 = cut.1 ∧
      gist (p.type starts echo (xs ++ ys)).2 = gist (now.2 ++ cut.2) := by
  induction xs generalizing p echo with
  | nil =>
    rcases hrun : p.running with _ | task
    · have hcarry := type_carry hrun starts echo [] ys
      simpa [type] using hcarry
    · obtain rfl := hecho (by simp [hrun])
      exact ⟨rfl, rfl⟩
  | cons b xs ih =>
    rcases hrun : p.running with _ | task
    · -- Both ways take the key alike, and the cut is in what comes after it.
      have hnext := ih (press_echo hrun starts echo b)
      simp only [List.cons_append, type_of_idle hrun, List.append_assoc]
      exact ⟨hnext.1, gist_append_congr _ hnext.2⟩
    · obtain rfl := hecho (by simp [hrun])
      have hstill : (p.forward task (b :: xs)).1.running = some
          { task with interrupted := task.interrupted || (untilInterrupt (b :: xs)).2 } := rfl
      simp only [type_of_running hrun, type_of_running hstill]
      exact forward_append p task (b :: xs) ys

/-! ## The bytes that are taken -/

@[simp] lemma edits_append (keys others : List (Prompt × UInt8)) :
    edits (keys ++ others) = edits keys ++ edits others :=
  List.filter_append ..

/-- What is typed while a task runs is no part of a line. -/
lemma edits_handled_of_running (hrun : p.running = some task) (starts : Launcher)
    (bytes : Bytes) : edits (handled starts p bytes) = [] := by
  rw [handled_of_running (by simp [hrun])]
  simp [edits, hrun]

/-- Lines are tried at the prompt only. -/
lemma tried_edits (keys : List (Prompt × UInt8)) : tried (edits keys) = tried keys := by
  have hidle : ∀ key : Prompt × UInt8, isCommandLine key = true →
      key.1.running.isNone = true := by
    intro key hline
    simp only [isCommandLine, Bool.and_eq_true] at hline
    exact hline.1.1
  simp only [tried, edits, List.filter_filter]
  congr 1
  refine List.filter_congr fun key _ => ?_
  rcases hline : isCommandLine key with _ | _
  · rfl
  · simp [hidle key hline]

/-- A chunk that is cut in two meets the same prompts as the whole. -/
lemma edits_handled_append (starts : Launcher) (p : Prompt) (echo xs ys : Bytes) :
    edits (handled starts p (xs ++ ys)) =
      edits (handled starts p xs) ++
        edits (handled starts (p.type starts echo xs).1 ys) := by
  induction xs generalizing p echo with
  | nil => rfl
  | cons b xs ih =>
    rcases hrun : p.running with _ | task
    · have hnext := ih (p.press starts [] b).1 (p.press starts echo b).2.1
      simp only [List.cons_append, handled, hrun, Option.isSome_none, Bool.false_eq_true, if_false]
      rw [type_of_idle hrun, press_fst starts p echo b]
      simp only [edits, List.filter_cons] at hnext ⊢
      rw [hnext]
      split <;> rfl
    · -- The task still runs where the second part begins.
      have hstill : (p.type starts echo (b :: xs)).1.running = some
          { task with interrupted := task.interrupted || (untilInterrupt (b :: xs)).2 } := by
        simp [type, hrun, forward]
      rw [edits_handled_of_running hrun, edits_handled_of_running hrun,
        edits_handled_of_running hstill, List.append_nil]

/-! ## Any number of cuts -/

@[simp] lemma type_stopped (starts : Launcher) (p : Prompt) (echo bytes : Bytes) :
    (p.type starts echo bytes).1.stopped = p.stopped := by
  induction bytes generalizing p echo with
  | nil => rfl
  | cons b rest ih =>
    rcases hrun : p.running with _ | task
    · rw [type_of_idle hrun, ih, press_stopped]
    · simp [type, hrun, forward]

/-- **Chunks have the gist of all their bytes at once.** -/
theorem takeChunks_eq (starts : Launcher) (p : Prompt) (chunks : List Bytes) :
    let whole := p.react starts (.input chunks.flatten)
    (p.takeChunks starts chunks).1 = whole.1 ∧
      gist (p.takeChunks starts chunks).2 = gist whole.2 ∧
      edits (typedIn starts p chunks) = edits (typed starts p (.input chunks.flatten)) := by
  intro whole
  rcases hstop : p.stopped with _ | _
  · have hwhole : whole = p.type starts [] chunks.flatten := by simp [whole, react, hstop]
    simp only [hwhole, typed, hstop, Bool.false_eq_true, if_false]
    clear hwhole whole
    induction chunks generalizing p with
    | nil => exact ⟨rfl, rfl, rfl⟩
    | cons chunk chunks ih =>
      have hreact : p.react starts (.input chunk) = p.type starts [] chunk := by
        simp [react, hstop]
      -- The whole is cut after the first chunk, and what comes then is the other chunks at once.
      obtain ⟨hprompt, hgist⟩ := type_append (p := p) (fun _ => rfl) starts chunk chunks.flatten
      obtain ⟨hnext, hacts, hedits⟩ := ih (p.type starts [] chunk).1 (by simpa using hstop)
      simp only [takeChunks, typedIn, typed, hreact, hstop, List.flatten_cons, edits_append,
        Bool.false_eq_true, if_false]
      refine ⟨hnext.trans hprompt.symm, (gist_append_congr _ hacts).trans hgist.symm, ?_⟩
      rw [hedits, edits_handled_append]
  · -- A stopped prompt takes no chunk at all.
    have hnone : ∀ chunk, p.react starts (.input chunk) = (p, []) := by
      intro chunk
      simp [react, hstop]
    have hnothing : p.takeChunks starts chunks = (p, []) ∧ typedIn starts p chunks = [] := by
      induction chunks with
      | nil => exact ⟨rfl, rfl⟩
      | cons chunk chunks ih => simp [takeChunks, typedIn, hnone, ih, typed, hstop]
    simp [whole, hnone, hnothing, typed, hstop]

/-- **What is typed does not depend on how it is cut into chunks.**  Two ways to cut the same bytes
lead to the same prompt: the same line, the same task that runs, interrupted or not, and the same
number for the next one.  On the way the same bytes are edited at the same prompts and the same
lines are tried in the same order.  What is done has the same gist: the same lines are started, the
same changes of status are told, with the same output before, between and after them, and the same
bytes go to the task that runs before its first interrupt. -/
theorem takeChunks_congr (starts : Launcher) (p : Prompt) {chunks others : List Bytes}
    (hbytes : chunks.flatten = others.flatten) :
    let one := p.takeChunks starts chunks
    let other := p.takeChunks starts others
    one.1 = other.1 ∧
      gist one.2 = gist other.2 ∧
      edits (typedIn starts p chunks) = edits (typedIn starts p others) ∧
      tried (typedIn starts p chunks) = tried (typedIn starts p others) := by
  intro one other
  obtain ⟨hone, hgist, hedits⟩ := takeChunks_eq starts p chunks
  obtain ⟨hother, hothers, hsame⟩ := takeChunks_eq starts p others
  rw [hbytes] at hone hgist hedits
  refine ⟨hone.trans hother.symm, hgist.trans hothers.symm, hedits.trans hsame.symm, ?_⟩
  rw [← tried_edits, hedits, ← hsame, tried_edits]

/-- A line, an answer to its task, an interrupt and one byte more, cut in two ways: not the same is
done, but it comes to the same. -/
theorem takeChunks_congr_line :
    let starts : Launcher := fun _ _ => .ok ()
    let p := (Prompt.start 1).1
    let chunks := [utf8 "l", utf8 "s\nx\x03y"]
    let others := [utf8 "ls\n", utf8 "x\x03", utf8 "y"]
    (p.takeChunks starts chunks).2 ≠ (p.takeChunks starts others).2 ∧
      gist (p.takeChunks starts chunks).2 = gist (p.takeChunks starts others).2 ∧
      gist (p.takeChunks starts others).2 =
        ⟨[(1, "ls")], utf8 "ls\r\n", [((1, .new, .running), [])], utf8 "x", true, []⟩ := by
  intro starts p chunks others
  have hbytes : chunks.flatten = others.flatten := by decide +kernel
  have hcongr := takeChunks_congr starts p hbytes
  exact ⟨by decide +kernel, hcongr.2.1, by decide +kernel⟩

end SharedTerminal.Prompt
