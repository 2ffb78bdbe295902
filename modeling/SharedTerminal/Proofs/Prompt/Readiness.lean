import SharedTerminal.Client.Link
import SharedTerminal.Proofs.Prompt.Protocol

/-!
# What the ready marker means

A prompt says that it takes a command by a chunk of output, which nothing but its bytes tells from
other chunks.  `History.moments` is the stream of a run with the prompt as it was at each time, and
`isWaiting` is what the marker promises.

The prompt itself keeps the promise.  Other chunks may look the same: what a task writes, and what
is shown of the bytes that someone typed.  `Draft` follows the echo through a chunk, to find out
when the marker is what is left of it (`Draft.keys_echo_eq_marker_iff`).  The main statement,
`run_readiness`, says that the promise is kept, and a client loses no output, just if no operation
mimics the marker.
-/

namespace SharedTerminal.Prompt

/-- The chunk that says that a prompt takes a command. -/
def marker : Bytes := utf8 Task.readyMarker

/-- Whether a prompt waits for a command: it has not stopped, no task runs, and nothing is on the
line. -/
def isWaiting (p : Prompt) : Bool := !p.stopped && p.running.isNone && p.line.isEmpty

/-! ## Every chunk in its time -/

/-- What some acts tell the session, with the prompt that they lead to. -/
def noted (result : Prompt × List Act) : List (Prompt × Entry) :=
  (reports result.2).map fun e => (result.1, e)

/-- A prompt, and what was typed in the chunk that it takes and is still to be shown. -/
structure Draft where
  /-- The prompt. -/
  prompt : Prompt
  /-- What is still to be shown. -/
  echo : Bytes

namespace Draft

/-- What the prompt does with one byte.  What goes to a task is not told to the session. -/
def acts (starts : Launcher) (d : Draft) (b : UInt8) : List Act :=
  if d.prompt.running.isSome then [] else (d.prompt.press starts d.echo b).2.2

/-- The draft after one byte. -/
def key (starts : Launcher) (d : Draft) (b : UInt8) : Draft :=
  if d.prompt.running.isSome then d
  else ⟨(d.prompt.press starts d.echo b).1, (d.prompt.press starts d.echo b).2.1⟩

/-- The draft after some bytes. -/
def keys (starts : Launcher) (d : Draft) (bytes : Bytes) : Draft := bytes.foldl (key starts) d

/-- What is told to the session until the end of the chunk. -/
def shown (starts : Launcher) (d : Draft) : Bytes → List (Prompt × Entry)
  | [] => noted (d.prompt, flush d.echo)
  | b :: rest =>
    noted ((d.key starts b).prompt, d.acts starts b) ++ (d.key starts b).shown starts rest

end Draft

namespace History

/-- What goes to the session in an operation, each with the prompt as it was then. -/
def shown (h : History) : Operation → List (Prompt × Entry)
  | .take (.input bytes) starts =>
    if h.prompt.stopped then [] else Draft.shown starts ⟨h.prompt, []⟩ bytes
  | .write task bytes => if task ∈ h.readers then [(h.prompt, .output task bytes)] else []
  | .notice task success =>
    if h.exits.contains (task, success) || h.prompt.running.map Running.task != some task then
      noted (h.prompt.finish task success)
    else []
  | .take _ _ | .exit _ _ | .skip _ => []

/-- What goes to the session in a list of operations. -/
def shownIn (h : History) : List Operation → List (Prompt × Entry)
  | [] => []
  | op :: ops => h.shown op ++ (h.step op).shownIn ops

/-- What goes to the session from the start of a prompt on. -/
def moments (first : Nat) (ops : List Operation) : List (Prompt × Entry) :=
  noted (Prompt.start first) ++ (start first).shownIn ops

end History

/-! ## Mimicry -/

/-- Some bytes, typed at a prompt, end in those of the marker, and everything before them in their
chunk was shown already. -/
def EndsInMarker (starts : Launcher) (p : Prompt) (bytes : Bytes) : Prop :=
  ∃ begun, bytes = begun ++ marker ∧ (Draft.keys starts ⟨p, []⟩ begun).prompt.running = none ∧
    (Draft.keys starts ⟨p, []⟩ begun).echo = []

/-- An operation brings about a chunk that looks like the marker and is none. -/
def History.Mimics (h : History) : Operation → Prop
  | .take (.input bytes) starts => h.prompt.stopped = false ∧ EndsInMarker starts h.prompt bytes
  | .write task bytes => task ∈ h.readers ∧ bytes = marker
  | _ => False

/-- No operation of a run mimics the marker. -/
def IsUnmimicked (first : Nat) (ops : List Operation) : Prop :=
  ∀ earlier op later, ops = earlier ++ op :: later →
    ¬ ((History.start first).run earlier).Mimics op

/-- What was typed, written by a task, or said of a task that could not be started. -/
def Entry.text? : Entry → Option Bytes
  | .told (.echo bytes) | .told (.refusal _ bytes) | .output _ bytes => some bytes
  | _ => none

/-- A client hears what goes to the session. -/
def hear (l : Client.Link) (e : Entry) : Client.Link :=
  match e.event with
  | .output bytes => l.takeOutput bytes
  | .status .. => l

variable {p : Prompt} {d : Draft} {starts : Launcher} {b : UInt8} {e : Entry} {h : History}

lemma marker_eq : marker = [0x25, 0x20] := by decide +kernel

lemma event_eq_ready_iff (e : Entry) :
    e.event = .ready ↔ e = .told .ready ∨ e.text? = some marker := by
  rcases e with (_ | bytes | ⟨task, reason⟩ | ⟨task, f, g⟩) | ⟨task, bytes⟩ <;>
    simp [Entry.event, Report.event, Engine.Event.ready, Entry.text?, marker]

/-- What ends a line is not the marker. -/
lemma append_ne_marker {front back : Bytes} (hback : back.getLast? = some 0x0A) :
    front ++ back ≠ marker := by
  intro heq
  have hlast := congrArg List.getLast? heq
  simp [List.getLast?_append, hback, marker_eq] at hlast

lemma utf8_append (s t : String) : utf8 (s ++ t) = utf8 s ++ utf8 t := by
  simp [utf8]

/-! ## Keys -/

@[simp] lemma noted_nil (p : Prompt) : noted (p, []) = [] := rfl

lemma map_snd_noted (result : Prompt × List Act) :
    (noted result).map Prod.snd = reports result.2 := by
  simp [noted, Function.comp_def]

lemma mem_noted {result : Prompt × List Act} {x : Prompt × Entry} (hx : x ∈ noted result) :
    x.1 = result.1 ∧ x.2 ∈ reports result.2 := by
  obtain ⟨e, he, rfl⟩ := List.mem_map.1 hx
  exact ⟨rfl, he⟩

lemma isWaiting_iff (p : Prompt) :
    p.isWaiting = true ↔ p.stopped = false ∧ p.running = none ∧ p.line = [] := by
  simp [isWaiting, and_assoc]

/-- **A key is followed by the marker only if the prompt waits for a command after it**, and
nothing else that is told of at once looks like the marker. -/
theorem of_mem_reports_press (hlive : p.stopped = false) (hidle : p.running = none)
    (echo : Bytes) (he : e ∈ reports (p.press starts echo b).2.2) (hready : e.event = .ready) :
    e = .told .ready ∧ (p.press starts echo b).1.isWaiting = true := by
  -- Of the reports of a key each ends a line, tells a status, or is the marker.
  have hline : ∀ front back : Bytes, back.getLast? = some 0x0A → front ++ back ≠ marker :=
    fun _ _ => append_ne_marker
  rw [event_eq_ready_iff] at hready
  rcases hk : Key.ofByte b with _ | _ | _ | _
  · rcases hempty : (lineText p.line).isEmpty with _ | _
    · rcases hs : starts p.next (lineText p.line) with err | u
      · simp only [press, hk, enter, hempty, launch, hs, reports, Bool.false_eq_true, if_false,
          List.filterMap_cons, List.filterMap_nil, List.mem_cons, List.not_mem_nil, or_false] at he
        rcases he with rfl | rfl | rfl | rfl | rfl
        · simp [Entry.text?, hline _ (utf8 "\r\n") (by decide)] at hready
        · simp [Entry.text?] at hready
        · simp [Entry.text?, utf8_append, hline _ (utf8 "\r\n") (by decide)] at hready
        · simp [Entry.text?] at hready
        · refine ⟨rfl, ?_⟩
          simp [press, hk, enter, hempty, launch, hs, isWaiting, hlive, hidle]
      · simp only [press, hk, enter, hempty, launch, hs, reports, Bool.false_eq_true, if_false,
          List.filterMap_cons, List.filterMap_nil, List.mem_cons, List.not_mem_nil, or_false] at he
        rcases he with rfl | rfl
        · simp [Entry.text?, hline _ (utf8 "\r\n") (by decide)] at hready
        · simp [Entry.text?] at hready
    · simp only [press, hk, enter, hempty, reports, if_true, List.filterMap_cons,
        List.filterMap_nil, List.mem_cons, List.not_mem_nil, or_false] at he
      rcases he with rfl | rfl
      · simp [Entry.text?, hline _ (utf8 "\r\n") (by decide)] at hready
      · refine ⟨rfl, ?_⟩
        simp [press, hk, enter, hempty, isWaiting, hlive, hidle]
  · simp only [press, hk, reports, List.filterMap_cons, List.filterMap_nil, List.mem_cons,
      List.not_mem_nil, or_false] at he
    rcases he with rfl | rfl
    · simp [Entry.text?, hline _ (utf8 "^C\r\n") (by decide)] at hready
    · refine ⟨rfl, ?_⟩
      simp [press, hk, isWaiting, hlive, hidle]
  · rcases hempty : p.line.isEmpty with _ | _ <;> simp [press, hk, hempty, reports] at he
  · simp [press, hk, reports] at he

namespace Draft

/-- What is still to be shown was typed at the prompt, and if the line is empty again, then the
last of it is the removal of a byte. -/
structure IsTyped (d : Draft) : Prop where
  /-- Nothing is left when a task runs. -/
  idle : d.prompt.running.isSome = true → d.echo = []
  /-- With an empty line something was removed last, or nothing was typed. -/
  erased : d.prompt.line = [] → d.echo = [] ∨ d.echo.getLast? = some 0x08

lemma isTyped_start (p : Prompt) : IsTyped ⟨p, []⟩ := ⟨fun _ => rfl, fun _ => Or.inl rfl⟩

lemma key_of_running (hrun : d.prompt.running.isSome = true) (b : UInt8) :
    d.key starts b = d :=
  if_pos hrun

lemma acts_of_running (hrun : d.prompt.running.isSome = true) (b : UInt8) :
    d.acts starts b = [] :=
  if_pos hrun

lemma key_of_idle (hidle : d.prompt.running = none) (b : UInt8) :
    d.key starts b =
      ⟨(d.prompt.press starts d.echo b).1, (d.prompt.press starts d.echo b).2.1⟩ := by
  simp [key, hidle]

lemma acts_of_idle (hidle : d.prompt.running = none) (b : UInt8) :
    d.acts starts b = (d.prompt.press starts d.echo b).2.2 := by
  simp [acts, hidle]

@[simp] lemma stopped_key (d : Draft) (b : UInt8) :
    (d.key starts b).prompt.stopped = d.prompt.stopped := by
  unfold key
  split
  · rfl
  · exact press_stopped starts d.prompt d.echo b

lemma IsTyped.key (h : d.IsTyped) (b : UInt8) : (d.key starts b).IsTyped := by
  rcases hrun : d.prompt.running with _ | task
  · rw [key_of_idle hrun]
    refine ⟨press_echo hrun starts d.echo b, ?_⟩
    rcases hk : Key.ofByte b with _ | _ | _ | _
    · simp [press, hk]
    · simp [press, hk]
    · rcases hempty : d.prompt.line.isEmpty with _ | _
      · have hlast : (utf8 "\x08 \x08").getLast? = some 0x08 := by decide
        simp [press, hk, hempty, List.getLast?_append, hlast]
      · simpa [press, hk, hempty] using h.erased
    · simp [press, hk]
  · rw [key_of_running (by simp [hrun])]
    exact h

lemma IsTyped.keys (h : d.IsTyped) (bytes : Bytes) : (d.keys starts bytes).IsTyped := by
  induction bytes generalizing d with
  | nil => exact h
  | cons b rest ih => exact ih (h.key b)

lemma keys_snoc (d : Draft) (bytes : Bytes) (b : UInt8) :
    d.keys starts (bytes ++ [b]) = (d.keys starts bytes).key starts b := by
  simp [keys]

/-- What is still to be shown after a byte ends in one that has no other meaning just if this byte
was typed at the prompt. -/
lemma IsTyped.echo_key_eq_iff (h : d.IsTyped) {c : UInt8} (hc : Key.ofByte c = .other)
    (b : UInt8) (front : Bytes) :
    (d.key starts b).echo = front ++ [c] ↔
      d.prompt.running = none ∧ b = c ∧ d.echo = front := by
  have hdifferent : c ≠ 0x08 := by
    rintro rfl
    exact absurd hc (by decide)
  rcases hrun : d.prompt.running with _ | task
  · rw [key_of_idle hrun]
    rcases hk : Key.ofByte b with _ | _ | _ | _
    · have hne : b ≠ c := by
        rintro rfl
        simp [hc] at hk
      simp [press, hk, hne]
    · have hne : b ≠ c := by
        rintro rfl
        simp [hc] at hk
      simp [press, hk, hne]
    · have hne : b ≠ c := by
        rintro rfl
        simp [hc] at hk
      simp only [hne, false_and, and_false, iff_false]
      -- What was removed ends in another byte, and so does what was typed before if nothing is
      -- there to be removed.
      intro hecho
      rcases hempty : d.prompt.line.isEmpty with _ | _
      · have hlast := congrArg List.getLast? hecho
        have hback : (utf8 "\x08 \x08").getLast? = some 0x08 := by decide
        simp [press, hk, hempty, List.getLast?_append, hback] at hlast
        exact hdifferent hlast.symm
      · simp only [press, hk, hempty, if_true] at hecho
        rcases h.erased (by simpa using hempty) with hnone | hback
        · simp [hnone] at hecho
        · rw [hecho, List.getLast?_concat, Option.some.injEq] at hback
          exact hdifferent hback
    · simp only [press, hk, true_and]
      constructor
      · intro hecho
        obtain ⟨hfront, hlast⟩ := List.append_inj' hecho rfl
        exact ⟨by simpa using hlast, hfront⟩
      · rintro ⟨rfl, rfl⟩
        rfl
  · rw [key_of_running (by simp [hrun]), h.idle (by simp [hrun])]
    simp

/-- **The marker is what is left to be shown just if its two bytes were typed last, and all before
them was shown.** -/
theorem keys_echo_eq_marker_iff (p : Prompt) (bytes : Bytes) :
    (keys starts ⟨p, []⟩ bytes).echo = marker ↔ EndsInMarker starts p bytes := by
  have hsplit : marker = [0x25] ++ [0x20] := marker_eq
  have htyped : ∀ bytes, (keys starts ⟨p, []⟩ bytes).IsTyped := (isTyped_start p).keys
  constructor
  · intro hecho
    obtain ⟨begun, b, rfl⟩ : ∃ begun b, bytes = begun ++ [b] := by
      rcases List.eq_nil_or_concat bytes with rfl | hlast
      · simp [keys, hsplit] at hecho
      · simpa using hlast
    rw [keys_snoc, hsplit, (htyped begun).echo_key_eq_iff (by decide)] at hecho
    obtain ⟨_, rfl, hecho⟩ := hecho
    obtain ⟨begun, b, rfl⟩ : ∃ front b, begun = front ++ [b] := by
      rcases List.eq_nil_or_concat begun with rfl | hlast
      · simp [keys] at hecho
      · simpa using hlast
    rw [keys_snoc, ← List.nil_append [0x25],
      (htyped begun).echo_key_eq_iff (by decide)] at hecho
    obtain ⟨hidle, rfl, hecho⟩ := hecho
    exact ⟨begun, by simp [hsplit], hidle, hecho⟩
  · rintro ⟨begun, rfl, hidle, hecho⟩
    have hfirst : (keys starts ⟨p, []⟩ (begun ++ [0x25])).echo = [] ++ [0x25] := by
      rw [keys_snoc, (htyped begun).echo_key_eq_iff (by decide)]
      exact ⟨hidle, rfl, hecho⟩
    have hstill : (keys starts ⟨p, []⟩ (begun ++ [0x25])).prompt.running = none := by
      have hk : Key.ofByte 0x25 = .other := by decide
      rw [keys_snoc, key_of_idle hidle]
      simpa [press, hk] using hidle
    rw [hsplit, ← List.append_assoc, keys_snoc,
      (htyped (begun ++ [0x25])).echo_key_eq_iff (by decide)]
    exact ⟨hstill, rfl, hfirst⟩

/-! ### What is told in a chunk -/

lemma shown_of_running (h : d.IsTyped) (hrun : d.prompt.running.isSome = true) (bytes : Bytes) :
    d.shown starts bytes = [] := by
  induction bytes with
  | nil =>
    rw [shown, h.idle hrun]
    rfl
  | cons b rest ih => rw [shown, key_of_running hrun, acts_of_running hrun, ih, noted_nil]; rfl

/-- The chunk is told as the prompt takes it. -/
lemma map_snd_shown (h : d.IsTyped) (bytes : Bytes) :
    (d.shown starts bytes).map Prod.snd = reports (d.prompt.type starts d.echo bytes).2 := by
  induction bytes generalizing d with
  | nil => exact map_snd_noted _
  | cons b rest ih =>
    rcases hrun : d.prompt.running with _ | task
    · have hkey : (d.key starts b).IsTyped := h.key b
      have hnext := ih hkey
      rw [shown, List.map_append, hnext, map_snd_noted, key_of_idle hrun, acts_of_idle hrun]
      simp [type, hrun, reports]
    · have hnone := h.idle (by simp [hrun])
      have hquiet := (quiet_forward d.prompt task (b :: rest)).1
      rw [shown_of_running h (by simp [hrun]), hnone]
      simpa [type, hrun, flush, reports] using hquiet.symm

/-- Of the chunks that look like the marker the prompt sends one when it waits for a command, and
the other one is what is left to be shown of what was typed. -/
lemma IsTyped.of_mem_shown (h : d.IsTyped) (hlive : d.prompt.stopped = false) {bytes : Bytes}
    {x : Prompt × Entry} (hx : x ∈ d.shown starts bytes) (hready : x.2.event = .ready) :
    (x.2 = .told .ready ∧ x.1.isWaiting = true) ∨
      (x.2.text? = some marker ∧ x.1.isWaiting = false ∧
        (d.keys starts bytes).echo = marker) := by
  induction bytes generalizing d with
  | nil =>
    obtain ⟨hprompt, he⟩ := mem_noted hx
    -- The last chunk is an echo, if there is one.
    obtain ⟨hne, hecho⟩ : d.echo ≠ [] ∧ x.2 = .told (.echo d.echo) := by
      rcases hempty : d.echo.isEmpty with _ | _
      · simp only [flush, hempty] at he
        exact ⟨by simpa using hempty, by simpa [reports] using he⟩
      · simp [flush, hempty, reports] at he
    have hmarker : d.echo = marker := by
      rw [event_eq_ready_iff, hecho] at hready
      simpa [Entry.text?] using hready
    refine Or.inr ⟨by rw [hecho, hmarker]; rfl, ?_, hmarker⟩
    rw [← Bool.not_eq_true, hprompt, isWaiting_iff]
    rintro ⟨_, _, hline⟩
    rcases h.erased hline with hnone | hlast
    · exact hne hnone
    · rw [hmarker, marker_eq] at hlast
      exact absurd hlast (by decide)
  | cons b rest ih =>
    rw [shown, List.mem_append] at hx
    rcases hx with hx | hx
    · rcases hrun : d.prompt.running with _ | task
      · obtain ⟨hprompt, he⟩ := mem_noted hx
        rw [acts_of_idle hrun] at he
        have hkey := of_mem_reports_press hlive hrun d.echo he hready
        rw [hprompt, key_of_idle hrun]
        exact Or.inl hkey
      · rw [acts_of_running (by simp [hrun])] at hx
        simp at hx
    · have hnext := ih (h.key b) (by simpa using hlive) hx
      exact hnext

/-- What is left to be shown is told at the end of the chunk. -/
lemma exists_mem_shown (bytes : Bytes) (hecho : (d.keys starts bytes).echo = marker) :
    ∃ x ∈ d.shown starts bytes, x.2.text? = some marker := by
  induction bytes generalizing d with
  | nil =>
    have hmarker : d.echo = marker := hecho
    refine ⟨(d.prompt, .told (.echo marker)), ?_, rfl⟩
    have hne : marker.isEmpty = false := by decide +kernel
    simp [shown, hmarker, flush, hne, noted, reports]
  | cons b rest ih =>
    obtain ⟨x, hx, htext⟩ := ih hecho
    exact ⟨x, List.mem_append_right _ hx, htext⟩

end Draft

/-! ## Operations -/

lemma reports_react_of_ne_input (starts : Launcher) (p : Prompt) {command : Engine.Command}
    (hcommand : ∀ bytes, command ≠ .input bytes) : reports (p.react starts command).2 = [] := by
  unfold react
  split
  · rfl
  · cases command with
    | input bytes => exact absurd rfl (hcommand bytes)
    | resize cols rows => rcases p.running.isSome with _ | _ <;> simp [reports]
    | shutdown => rcases p.running.isSome with _ | _ <;> simp [reports]

namespace History

/-- The stream grows by what is shown. -/
lemma stream_step (h : History) (op : Operation) :
    (h.step op).stream = h.stream ++ (h.shown op).map Prod.snd := by
  cases op with
  | take command starts =>
    cases command with
    | input bytes =>
      simp only [step, shown, react]
      split
      · simp [after, reports]
      · rw [Draft.map_snd_shown (Draft.isTyped_start _)]
        rfl
    | resize | shutdown =>
      simp only [step, shown, after]
      rw [reports_react_of_ne_input starts h.prompt (by simp)]
      rfl
  | write task bytes =>
    simp only [step, shown]
    split <;> simp
  | notice task success =>
    simp only [step, shown, Bool.or_eq_true, List.contains_iff_mem, bne_iff_ne]
    split
    · rw [map_snd_noted]
      rfl
    · simp
  | exit task success =>
    simp only [step, shown]
    split <;> simp
  | skip n => simp [step, shown]

lemma stream_run (h : History) (ops : List Operation) :
    (h.run ops).stream = h.stream ++ (h.shownIn ops).map Prod.snd := by
  induction ops generalizing h with
  | nil => simp [run, shownIn]
  | cons op ops ih =>
    have hrest := ih (h.step op)
    rw [stream_step, List.append_assoc, ← List.map_append] at hrest
    exact hrest

lemma map_snd_moments (first : Nat) (ops : List Operation) :
    (moments first ops).map Prod.snd = ((start first).run ops).stream := by
  rw [moments, List.map_append, map_snd_noted, stream_run]
  rfl

end History

/-- While a task runs nothing is on the line. -/
def IsCleared (h : History) : Prop := h.prompt.running.isSome = true → h.prompt.line = []

lemma Move.isCleared {h h' : History} (hm : Move h h') (hc : IsCleared h) : IsCleared h' := by
  cases hm with
  | edit _ hidle => exact fun hrun => by simp [hidle] at hrun
  | echo | resize | write | exit | skip => exact hc
  | reprompt | launch | refuse => exact fun _ => rfl
  | forward _ hrun => exact fun _ => hc (by simp [hrun])
  | stop => exact fun hrun => by simp at hrun
  | finish => exact fun hrun => by simp at hrun

lemma isCleared_run (first : Nat) (ops : List Operation) :
    IsCleared ((History.start first).run ops) := by
  have hmoves := moves_run (History.start first) ops
  generalize (History.start first).run ops = h at hmoves ⊢
  induction hmoves with
  | refl => exact fun _ => rfl
  | tail _ hm ih => exact hm.isCleared ih

/-- As long as a task is read the prompt does not wait for a command. -/
lemma IsSound.isWaiting_eq_false (hs : IsSound h) {t : Nat} (hreads : t ∈ h.readers) :
    h.prompt.isWaiting = false := by
  obtain ⟨o, hi⟩ := hs.ordered
  rw [← Bool.not_eq_true, isWaiting_iff]
  rintro ⟨hlive, hidle, _⟩
  have hcurrent := hi.current hlive
  rw [hidle, hi.reading t hreads] at hcurrent
  simp at hcurrent

/-- **In one operation**, each chunk that looks like the marker comes from a prompt that waits for
a command, or the operation mimics it. -/
theorem IsSound.of_mem_shown (hs : IsSound h) (hc : IsCleared h) {op : Operation}
    {x : Prompt × Entry} (hx : x ∈ h.shown op) (hready : x.2.event = .ready) :
    (x.2 = .told .ready ∧ x.1.isWaiting = true) ∨
      (x.2.text? = some marker ∧ x.1.isWaiting = false ∧ h.Mimics op) := by
  cases op with
  | take command starts =>
    cases command with
    | input bytes =>
      simp only [History.shown] at hx
      split at hx
      · simp at hx
      · next hlive =>
        have hstart := Draft.isTyped_start h.prompt
        rcases hstart.of_mem_shown (by simpa using hlive) hx hready with
          hprompt | ⟨htext, hnot, hecho⟩
        · exact Or.inl hprompt
        · exact Or.inr ⟨htext, hnot, by simpa using hlive,
            (Draft.keys_echo_eq_marker_iff h.prompt bytes).1 hecho⟩
    | resize | shutdown => simp [History.shown] at hx
  | write task bytes =>
    simp only [History.shown] at hx
    split at hx
    · next hreads =>
      obtain rfl := List.mem_singleton.1 hx
      have hmarker : bytes = marker := by
        rw [event_eq_ready_iff] at hready
        simpa [Entry.text?] using hready
      exact Or.inr ⟨by simp [Entry.text?, hmarker], hs.isWaiting_eq_false hreads, hreads, hmarker⟩
    · simp at hx
  | notice task success =>
    simp only [History.shown] at hx
    split at hx
    · obtain ⟨hprompt, he⟩ := mem_noted hx
      obtain ⟨o, hi⟩ := hs.ordered
      rcases hrun : h.prompt.running with _ | running
      · simp [finish, hrun, reports] at he
      · by_cases hsame : running.task = task
        · -- The task that ends was the one that ran, so that nothing is on the line.
          simp only [finish, hrun, hsame, if_true, reports, List.filterMap_cons,
            List.filterMap_nil, List.mem_cons, List.not_mem_nil, or_false] at he
          rcases he with he | he
          · rw [event_eq_ready_iff, he] at hready
            simp [Entry.text?] at hready
          · refine Or.inl ⟨he, ?_⟩
            have hlive := hi.not_stopped hrun
            have hline := hc (by simp [hrun])
            simp [hprompt, finish, hrun, hsame, isWaiting, hlive, hline]
        · simp [finish, hrun, hsame, reports] at he
    · simp at hx
  | exit | skip => simp [History.shown] at hx

/-- An operation that mimics the marker brings about a chunk that looks like it. -/
lemma exists_mem_shown_of_mimics {op : Operation} (hop : h.Mimics op) :
    ∃ x ∈ h.shown op, x.2.text? = some marker := by
  cases op with
  | take command starts =>
    cases command with
    | input bytes =>
      obtain ⟨hlive, hends⟩ := hop
      rw [← Draft.keys_echo_eq_marker_iff] at hends
      simpa [History.shown, hlive] using Draft.exists_mem_shown bytes hends
    | resize | shutdown => exact hop.elim
  | write task bytes =>
    obtain ⟨hreads, rfl⟩ := hop
    exact ⟨(h.prompt, .output task marker), by simp [History.shown, hreads], rfl⟩
  | exit | notice | skip => exact hop.elim

/-! ## Whole runs -/

/-- Something is shown in a run just if it is shown in one of its operations. -/
lemma mem_shownIn_iff {x : Prompt × Entry} {ops : List Operation} :
    x ∈ h.shownIn ops ↔
      ∃ earlier op later, ops = earlier ++ op :: later ∧ x ∈ (h.run earlier).shown op := by
  induction ops generalizing h with
  | nil => simp [History.shownIn]
  | cons first ops ih =>
    rw [History.shownIn, List.mem_append, ih]
    constructor
    · rintro (hx | ⟨earlier, op, later, rfl, hx⟩)
      · exact ⟨[], first, ops, rfl, hx⟩
      · exact ⟨first :: earlier, op, later, rfl, hx⟩
    · rintro ⟨earlier, op, later, heq, hx⟩
      cases earlier with
      | nil =>
        obtain ⟨rfl, rfl⟩ := List.cons.inj heq
        exact Or.inl hx
      | cons next earlier =>
        obtain ⟨rfl, rfl⟩ := List.cons.inj heq
        exact Or.inr ⟨earlier, op, later, rfl, hx⟩

/-- What looks like the marker in a run comes from a prompt that waits for a command, or one of the
operations mimics it. -/
lemma of_mem_moments {first : Nat} {ops : List Operation} {x : Prompt × Entry}
    (hx : x ∈ History.moments first ops) (hready : x.2.event = .ready) :
    (x.2 = .told .ready ∧ x.1.isWaiting = true) ∨
      (x.2.text? = some marker ∧ x.1.isWaiting = false ∧ ¬ IsUnmimicked first ops) := by
  rw [History.moments, List.mem_append] at hx
  rcases hx with hx | hx
  · obtain ⟨hprompt, he⟩ := mem_noted hx
    exact Or.inl ⟨by simpa [Prompt.start, reports] using he, by rw [hprompt]; rfl⟩
  · obtain ⟨earlier, op, later, rfl, hin⟩ := mem_shownIn_iff.1 hx
    have hsound := isSound_run (isSound_start first) earlier
    rcases hsound.of_mem_shown (isCleared_run first earlier) hin hready with
      hprompt | ⟨htext, hnot, hop⟩
    · exact Or.inl hprompt
    · exact Or.inr ⟨htext, hnot, fun hnone => hnone earlier op later rfl hop⟩

/-- No chunk but the prompt's own looks like the marker just if no operation mimics it. -/
lemma isUnmimicked_iff (first : Nat) (ops : List Operation) :
    IsUnmimicked first ops ↔
      ∀ x ∈ History.moments first ops, x.2.text? ≠ some marker := by
  constructor
  · intro hnone x hx htext
    rcases of_mem_moments hx ((event_eq_ready_iff x.2).2 (Or.inr htext)) with
      ⟨hprompt, _⟩ | ⟨_, _, hmimicked⟩
    · simp [hprompt, Entry.text?] at htext
    · exact hmimicked hnone
  · rintro hnone earlier op later rfl hop
    obtain ⟨x, hx, htext⟩ := exists_mem_shown_of_mimics hop
    refine hnone x (List.mem_append_right _ (mem_shownIn_iff.2 ?_)) htext
    exact ⟨earlier, op, later, rfl, hx⟩

/-! ## The client -/

lemma hear_of_ready (l : Client.Link) (he : e.event = .ready) :
    hear l e = { l with ready := true } := by
  simp [hear, he, Engine.Event.ready, Client.Link.takeOutput]

lemma hear_of_not_ready (l : Client.Link) (he : e.event ≠ .ready) :
    hear l e = { l with output := l.output ++ e.text?.toList } := by
  rcases e with (_ | bytes | ⟨task, reason⟩ | ⟨task, f, g⟩) | ⟨task, bytes⟩
  · exact absurd rfl he
  · have hne : bytes ≠ utf8 Task.readyMarker := fun heq => he (by rw [heq]; rfl)
    simp [hear, Entry.event, Report.event, Client.Link.takeOutput, Entry.text?, hne]
  · have hne : reason ≠ utf8 Task.readyMarker := fun heq => he (by rw [heq]; rfl)
    simp [hear, Entry.event, Report.event, Client.Link.takeOutput, Entry.text?, hne]
  · simp [hear, Entry.event, Report.event, Entry.text?]
  · have hne : bytes ≠ utf8 Task.readyMarker := fun heq => he (by rw [heq]; rfl)
    simp [hear, Entry.event, Client.Link.takeOutput, Entry.text?, hne]

/-- A client gets all output but the chunks that look like the marker. -/
lemma output_foldl_hear (l : Client.Link) (es : List Entry) :
    (es.foldl hear l).output = l.output ++ (es.filterMap Entry.text?).filter (· ≠ marker) := by
  induction es generalizing l with
  | nil => simp
  | cons e es ih =>
    rw [List.foldl_cons, ih, List.filterMap_cons]
    by_cases hready : e.event = .ready
    · rw [hear_of_ready l hready]
      rcases (event_eq_ready_iff e).1 hready with rfl | htext
      · rfl
      · simp [htext]
    · rw [hear_of_not_ready l hready]
      rcases htext : e.text? with _ | bytes
      · simp
      · have hne : bytes ≠ marker := by
          rintro rfl
          exact hready ((event_eq_ready_iff e).2 (Or.inr htext))
        simp [hne]

/-- A client gets all output just if none of it looks like the marker. -/
lemma output_foldl_hear_eq_iff (l : Client.Link) (es : List Entry) :
    (es.foldl hear l).output = l.output ++ es.filterMap Entry.text? ↔
      ∀ e ∈ es, e.text? ≠ some marker := by
  rw [output_foldl_hear, List.append_cancel_left_eq, List.filter_eq_self]
  constructor
  · intro hall e he htext
    simpa using hall marker (List.mem_filterMap.2 ⟨e, he, htext⟩)
  · intro hall bytes hbytes
    obtain ⟨e, he, htext⟩ := List.mem_filterMap.1 hbytes
    simpa using fun hmarker => hall e he (htext.trans (congrArg some hmarker))

/-- **The ready marker means that the prompt is ready, unless something mimics it.**  The prompt
itself sends it only when it waits for a command.  Every chunk of a run that looks like it comes
from a prompt that waits for a command just if no operation mimics the marker: no task writes a
chunk of just these bytes, and no chunk that is typed at the prompt ends in them with all before
them shown already.  Neither does a client lose any output, or take itself for ready too early, just
if this is so. -/
theorem run_readiness (first : Nat) (ops : List Operation) :
    let moments := History.moments first ops
    moments.map Prod.snd = ((History.start first).run ops).stream ∧
    (∀ x ∈ moments, x.2 = .told .ready → x.1.isWaiting = true) ∧
    ((∀ x ∈ moments, x.2.event = .ready → x.1.isWaiting = true) ↔ IsUnmimicked first ops) ∧
    ∀ l : Client.Link,
      ((moments.map Prod.snd).foldl hear l).output =
          l.output ++ (moments.map Prod.snd).filterMap Entry.text? ∧
        (∀ x ∈ moments, l.ready = false → (hear l x.2).ready = true → x.1.isWaiting = true) ↔
      IsUnmimicked first ops := by
  intro moments
  have hpromises : (∀ x ∈ moments, x.2.event = .ready → x.1.isWaiting = true) ↔
      IsUnmimicked first ops := by
    constructor
    · intro hall
      rw [isUnmimicked_iff]
      intro x hx htext
      have hready : x.2.event = .ready := (event_eq_ready_iff x.2).2 (Or.inr htext)
      rcases of_mem_moments hx hready with ⟨hprompt, _⟩ | ⟨_, hnot, _⟩
      · simp [hprompt, Entry.text?] at htext
      · rw [hall x hx hready] at hnot
        exact absurd hnot (by decide)
    · intro hnone x hx hready
      rcases of_mem_moments hx hready with ⟨_, hwaits⟩ | ⟨_, _, hmimicked⟩
      · exact hwaits
      · exact absurd hnone hmimicked
  have hheard : ∀ l : Client.Link, ((moments.map Prod.snd).foldl hear l).output =
      l.output ++ (moments.map Prod.snd).filterMap Entry.text? ↔ IsUnmimicked first ops := by
    intro l
    rw [output_foldl_hear_eq_iff, isUnmimicked_iff, List.forall_mem_map]
  refine ⟨History.map_snd_moments first ops, ?_, hpromises, fun l => ?_⟩
  · intro x hx hprompt
    rcases of_mem_moments hx ((event_eq_ready_iff x.2).2 (Or.inl hprompt)) with
      ⟨_, hwaits⟩ | ⟨htext, _⟩
    · exact hwaits
    · simp [hprompt, Entry.text?] at htext
  · rw [hheard l, and_iff_left_iff_imp]
    intro hnone x hx hearly hready
    refine hpromises.2 hnone x hx ?_
    by_contra hother
    rw [hear_of_not_ready l hother, hearly] at hready
    exact absurd hready (by decide)

/-- A percent sign and a blank that someone types are shown as the marker, with both still on the
line. -/
theorem not_forall_marker_isWaiting :
    ¬ ∀ first ops, ∀ x ∈ History.moments first ops,
      x.2.event = .ready → x.1.isWaiting = true := by
  intro hall
  have hx := hall 1 [.take (.input (utf8 "% ")) fun _ _ => .ok ()]
    (⟨utf8 "% ", defaultCols, defaultRows, none, 1, false⟩, .told (.echo (utf8 "% ")))
    (by decide +kernel) rfl
  exact absurd hx (by decide +kernel)

end SharedTerminal.Prompt
