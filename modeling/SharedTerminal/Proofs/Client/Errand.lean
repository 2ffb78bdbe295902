import SharedTerminal.Client.Command
import SharedTerminal.Proofs.Envelope.RoundTrip

/-!
# A client and its command

A client listens to how tasks fare before it sends its command, and what it heard by then still
waits when it begins to follow.  It takes the first task that is announced as new for its command,
so what it tells is the `verdict?` on what was announced since it listens: the final status of the
first task that is announced as new, and of no other.  That task is its own command as long as no
task was announced as new before the command was sent, and only as long
(`forall_verdict?_append_iff`).

An `Errand` is a client with what it has heard and what is on the way to it.  Announcements, frames
on either connection, the loss of a connection and what the client does itself come in any order.
The main statement is `tells_first_announced`.
-/

namespace SharedTerminal.Client

open SharedTerminal.Task (Change Status)

/-! ## The verdict -/

/-- The final status of the first task that is announced as new. -/
def verdict? (changes : List Change) : Option Status :=
  match changes.dropWhile (·.before ≠ .new) with
  | [] => none
  | first :: rest =>
    ((first :: rest).find? fun c => c.task = first.task ∧ c.isFinal).map (·.after)

lemma verdict?_cons_of_eq {c : Change} (hc : c.before = .new) (changes : List Change) :
    verdict? (c :: changes) =
      ((c :: changes).find? fun later => later.task = c.task ∧ later.isFinal).map (·.after) := by
  have hdrop : (c :: changes).dropWhile (·.before ≠ .new) = c :: changes :=
    List.dropWhile_cons_of_neg (by simpa using hc)
  rw [verdict?, hdrop]

lemma verdict?_cons_of_ne {c : Change} (hc : c.before ≠ .new) (changes : List Change) :
    verdict? (c :: changes) = verdict? changes := by
  have hdrop : (c :: changes).dropWhile (·.before ≠ .new) = changes.dropWhile (·.before ≠ .new) :=
    List.dropWhile_cons_of_pos (by simpa using hc)
  rw [verdict?, hdrop, verdict?]

/-- What is announced before any task is new does not matter. -/
lemma verdict?_append_of_forall {earlier : List Change} (h : ∀ c ∈ earlier, c.before ≠ .new)
    (later : List Change) : verdict? (earlier ++ later) = verdict? later := by
  induction earlier with
  | nil => rfl
  | cons c earlier ih =>
    obtain ⟨hc, hrest⟩ := List.forall_mem_cons.1 h
    rw [List.cons_append, verdict?_cons_of_ne hc, ih hrest]

/-- Once a task was announced as new, the verdict is on the first that was. -/
lemma exists_verdict?_append {earlier : List Change} (h : ∃ c ∈ earlier, c.before = .new) :
    ∃ before first after, earlier = before ++ first :: after ∧ first.before = .new ∧
      ∀ later, verdict? (earlier ++ later) =
        ((first :: after ++ later).find? fun c => c.task = first.task ∧ c.isFinal).map
          (·.after) := by
  induction earlier with
  | nil => simp at h
  | cons c earlier ih =>
    by_cases hc : c.before = .new
    · exact ⟨[], c, earlier, rfl, hc, fun later => verdict?_cons_of_eq hc (earlier ++ later)⟩
    · obtain ⟨before, first, after, rfl, hnew, hverdict⟩ := ih (by simpa [hc] using h)
      refine ⟨c :: before, first, after, rfl, hnew, fun later => ?_⟩
      rw [← hverdict later]
      exact verdict?_cons_of_ne hc _

/-- What comes after the verdict does not change it. -/
lemma verdict?_append_of_eq_some {heard : List Change} {st : Status}
    (h : verdict? heard = some st) (more : List Change) : verdict? (heard ++ more) = some st := by
  by_cases hnew : ∃ c ∈ heard, c.before = .new
  · obtain ⟨before, first, after, rfl, -, hverdict⟩ := exists_verdict?_append hnew
    have hnone := hverdict []
    rw [List.append_nil, List.append_nil, h] at hnone
    obtain ⟨last, hlast, rfl⟩ := Option.map_eq_some_iff.1 hnone.symm
    rw [hverdict more, List.find?_append, hlast]
    rfl
  · have hall : ∀ c ∈ heard, c.before ≠ .new := by simpa using hnew
    have hsilent := verdict?_append_of_forall hall []
    rw [List.append_nil, h] at hsilent
    cases hsilent

/-- A verdict is on a task that was announced as new before some point, or after it. -/
lemma verdict?_append_eq_some {earlier later : List Change} {st : Status}
    (h : verdict? (earlier ++ later) = some st) :
    ((∀ c ∈ earlier, c.before ≠ .new) → verdict? later = some st) ∧
    ((∃ c ∈ earlier, c.before = .new) → ∃ first ∈ earlier, first.before = .new ∧
      ∃ last ∈ earlier ++ later, last.task = first.task ∧ last.isFinal = true ∧
        last.after = st) := by
  refine ⟨fun hsilent => (verdict?_append_of_forall hsilent later).symm.trans h, fun hnew => ?_⟩
  obtain ⟨before, first, after, rfl, hfirst, hverdict⟩ := exists_verdict?_append hnew
  obtain ⟨last, hlast, hst⟩ := Option.map_eq_some_iff.1 ((hverdict later).symm.trans h)
  have hmem : last ∈ first :: after ++ later := List.mem_of_find?_eq_some hlast
  have hends := List.find?_some hlast
  rw [decide_eq_true_eq] at hends
  refine ⟨first, by simp, hfirst, last, ?_, hends.1, hends.2, hst⟩
  rw [List.append_assoc]
  exact List.mem_append_right before hmem

/-- The verdict is on a task that is announced from some point on just if none was before. -/
lemma forall_verdict?_append_iff (earlier : List Change) :
    (∀ later, verdict? (earlier ++ later) = verdict? later) ↔ ∀ c ∈ earlier, c.before ≠ .new := by
  refine ⟨fun h => ?_, fun h later => verdict?_append_of_forall h later⟩
  by_contra hnew
  have hsome : ∃ c ∈ earlier, c.before = .new := by simpa using hnew
  obtain ⟨before, first, after, rfl, -, hverdict⟩ := exists_verdict?_append hsome
  -- The first task ends at the latest with a change that is about no new task.
  let ending : Change := ⟨first.task, .running, .done, first.context⟩
  have hlast := hverdict [ending]
  rw [h] at hlast
  have hends : ((first :: after ++ [ending]).find? fun c =>
      decide (c.task = first.task ∧ c.isFinal = true)).isSome = true := by
    simp [ending, Change.isFinal, Status.isFinal]
  rw [← Option.isSome_map, ← hlast] at hends
  cases hends

/-! ## Taking note -/

lemma foldl_note_of_final {p : Pursuit} (h : p.final.isSome = true) (changes : List Change) :
    changes.foldl Pursuit.note p = p := by
  induction changes with
  | nil => rfl
  | cons c changes ih => rw [List.foldl_cons, Pursuit.note, if_pos h, ih]

/-- Whoever knows the task waits for its end. -/
lemma final_foldl_note (task : String) (changes : List Change) :
    (changes.foldl Pursuit.note ⟨some task, none⟩).final =
      (changes.find? fun c => c.task = task ∧ c.isFinal).map (·.after) := by
  induction changes with
  | nil => rfl
  | cons c changes ih =>
    by_cases hc : c.task = task ∧ c.isFinal = true
    · obtain ⟨rfl, hfinal⟩ := hc
      have hnote : Pursuit.note ⟨some c.task, none⟩ c = ⟨some c.task, some c.after⟩ := by
        simp [Pursuit.note, hfinal]
      rw [List.foldl_cons, hnote, foldl_note_of_final rfl]
      simp [hfinal]
    · have hnote : Pursuit.note ⟨some task, none⟩ c = ⟨some task, none⟩ := by
        simp [Pursuit.note, eq_comm (a := task), hc]
      rw [List.foldl_cons, hnote, ih, List.find?_cons_of_neg (by simpa using hc)]

/-- What a client comes to know is the verdict on what it took note of. -/
lemma final_foldl_note_begun (changes : List Change) :
    (changes.foldl Pursuit.note .begun).final = verdict? changes := by
  induction changes with
  | nil => rfl
  | cons c changes ih =>
    by_cases hc : c.before = .new
    · have hnote : ∀ rest : List Change, (c :: rest).foldl Pursuit.note .begun =
          (c :: rest).foldl Pursuit.note ⟨some c.task, none⟩ := by
        intro rest
        simp [Pursuit.note, Pursuit.begun, hc]
      rw [hnote, final_foldl_note, verdict?_cons_of_eq hc]
    · have hnote : Pursuit.note .begun c = .begun := by simp [Pursuit.note, Pursuit.begun, hc]
      rw [List.foldl_cons, hnote, ih, verdict?_cons_of_ne hc]

/-! ## Errands -/

/-- The change that a frame on the status connection announces. -/
def change? : Frame → Option Change
  | .text text => (Change.parse text.toList).toOption
  | _ => none

lemma change?_toJson (c : Change) : change? (.text c.toJson) = some c := by
  rw [change?, Change.parse_toJson]
  rfl

/-- A client that was told to run a command, what is on the way to it, and what was announced to
it. -/
structure Errand where
  /-- The client as a program. -/
  run : Run
  /-- Its two connections. -/
  link : Link
  /-- The frames that are on the way on the status connection, in order. -/
  transit : List Frame
  /-- What was announced since the client listens, and before it sent its command. -/
  earlier : List Change
  /-- What was announced since. -/
  later : List Change
  /-- Whether it has sent its command. -/
  submitted : Bool

namespace Errand

/-- What can happen on an errand. -/
inductive Event where
  /-- The daemon announces a change. -/
  | announce (change : Change)
  /-- It sends a frame that announces none on the status connection. -/
  | interject (f : Frame) (hf : change? f = none)
  /-- The first frame on the way on the status connection arrives. -/
  | hearStatus
  /-- A frame arrives on the command connection. -/
  | hearCommand (f : Frame)
  /-- The status connection is lost. -/
  | loseStatus
  /-- The command connection is lost. -/
  | loseCommand
  /-- The client goes on, at a time, with what came of opening the link. -/
  | advance (opening : Option (Except Error Unit)) (now : Nat)

/-- A client that has opened both connections. -/
def start (command : Command) : Errand :=
  ⟨⟨command, .opening, [], []⟩, .opened command.settings, [], [], [], false⟩

/-- The errand after an event. -/
def step (e : Errand) : Event → Errand
  | .announce change =>
    { e with
      transit := e.transit ++ [.text change.toJson]
      earlier := if e.submitted then e.earlier else e.earlier ++ [change]
      later := if e.submitted then e.later ++ [change] else e.later }
  | .interject f _ => { e with transit := e.transit ++ [f] }
  | .hearStatus =>
    match e.transit with
    | [] => e
    | f :: rest => { e with link := e.link.hearStatus f, transit := rest }
  | .hearCommand f => { e with link := e.link.hearCommand f }
  | .loseStatus => { e with link := e.link.loseStatus }
  | .loseCommand => { e with link := e.link.loseCommand }
  | .advance opening now =>
    let (run, link, move) := e.run.advance opening e.link now
    match move with
    | .send _ => { e with run := run, link := link, submitted := true }
    | .close => { e with run := run, link := link.close }
    | .wait | .leave => { e with run := run, link := link }

/-- The errand after a list of events. -/
def play (e : Errand) (events : List Event) : Errand := events.foldl step e

/-- All that was announced since the client listens. -/
def announced (e : Errand) : List Change := e.earlier ++ e.later

/-- A connection has ended. -/
def HasEnded (e : Errand) : Prop := e.link.command ≠ .up ∨ e.link.status ≠ .up

/-- What the client tells: the final status that it waits with for late output, or the exit that
goes with it. -/
def Tells (e : Errand) (final : Option Status) : Prop :=
  (∃ limit, e.run.stage = .lingering final limit) ∨ e.run.stage = .exited (.ofFinal final)

lemma Tells.eq_of_lingering {e : Errand} {final found : Option Status} {limit : Nat}
    (h : e.Tells final) (hstage : e.run.stage = .lingering found limit) : final = found := by
  rcases h with ⟨_, hlingering⟩ | hexited
  · exact (Stage.lingering.inj (hlingering.symm.trans hstage)).1
  · rw [hstage] at hexited
    cases hexited

/-! ## What the client knows -/

/-- What the client makes of the changes that it took from its link. -/
def Knows (e : Errand) (taken : List Change) : Stage → Prop
  | .opening => e.submitted = false ∧ taken = []
  | .watching => e.submitted = false
  | .following pursuit =>
    pursuit = taken.foldl Pursuit.note .begun ∧ pursuit.final = none
  | .lingering final _ => ∃ heard, heard <+: taken ∧ final = verdict? heard ∧
      (final = none → e.HasEnded)
  | .exited exit => e.submitted = true →
      ∃ heard, heard <+: taken ∧ exit = .ofFinal (verdict? heard) ∧
        (verdict? heard = none → e.HasEnded)

/-- What was announced is what the client took, what waits in its link and, as long as the status
connection goes on, what is on the way. -/
structure IsSound (e : Errand) (taken : List Change) : Prop where
  /-- Nothing is announced after a command that was not sent. -/
  unsent : e.submitted = false → e.later = []
  /-- As long as the status connection goes on nothing is lost. -/
  whole : e.link.status = .up →
    taken ++ e.link.changes ++ e.transit.filterMap change? = e.announced
  /-- What has come was announced first. -/
  heard : taken ++ e.link.changes <+: e.announced
  /-- The client makes of it what it should. -/
  known : e.Knows taken e.run.stage

lemma isSound_start (command : Command) : IsSound (start command) [] where
  unsent _ := rfl
  whole _ := rfl
  heard := List.nil_prefix
  known := ⟨rfl, rfl⟩

variable {e next : Errand} {taken : List Change}

/-- What the client knows does not change while it does nothing. -/
lemma Knows.of_eq {stage : Stage} (h : e.Knows taken stage)
    (hsubmitted : next.submitted = e.submitted) (hended : e.HasEnded → next.HasEnded) :
    next.Knows taken stage := by
  cases stage with
  | opening => exact ⟨hsubmitted.trans h.1, h.2⟩
  | watching => exact hsubmitted.trans h
  | following pursuit => exact h
  | lingering final limit =>
    obtain ⟨heard, hheard, hfinal, hnone⟩ := h
    exact ⟨heard, hheard, hfinal, fun heq => hended (hnone heq)⟩
  | exited exit =>
    intro hs
    obtain ⟨heard, hheard, hexit, hnone⟩ := h (hsubmitted.symm.trans hs)
    exact ⟨heard, hheard, hexit, fun heq => hended (hnone heq)⟩

lemma hearStatus_of_up {l : Link} (hup : l.status = .up) (f : Frame) :
    (l.hearStatus f).changes = l.changes ++ (change? f).toList ∧
      (l.hearStatus f).command = l.command := by
  cases f with
  | text text =>
    rcases hparse : Change.parse text.toList with fault | change <;>
      simp [Link.hearStatus, change?, hup, hparse, Except.toOption]
  | _ => simp [Link.hearStatus, change?, hup]

lemma hearStatus_of_ended {l : Link} (hended : l.status ≠ .up) (f : Frame) :
    l.hearStatus f = l := by
  simp [Link.hearStatus, hended]

/-- What happens on the command connection, and the loss of either, leaves the changes that wait as
they are, and no connection comes back. -/
structure Fades (l next : Link) : Prop where
  /-- The same changes wait. -/
  changes : next.changes = l.changes
  /-- The status connection does not come back, -/
  status : next.status = .up → l.status = .up
  /-- nor does the command connection. -/
  command : next.command = .up → l.command = .up

lemma fades_hearCommand (l : Link) (f : Frame) : Fades l (l.hearCommand f) := by
  by_cases hup : l.command = .up
  · have htake : ∀ data, Fades l (l.takeOutput data) := by
      intro data
      unfold Link.takeOutput
      split <;> exact ⟨rfl, id, id⟩
    cases f with
    | text text => simpa [Link.hearCommand, hup] using htake (utf8 text)
    | binary data => simpa [Link.hearCommand, hup] using htake data
    | close reason => exact ⟨by simp [Link.hearCommand, hup], by simp [Link.hearCommand, hup],
        fun _ => hup⟩
    | _ => simpa [Link.hearCommand, hup] using ⟨rfl, id, id⟩
  · simpa [Link.hearCommand, hup] using ⟨rfl, id, id⟩

lemma fades_loseCommand (l : Link) : Fades l l.loseCommand := by
  unfold Link.loseCommand
  split
  · next hup => exact ⟨rfl, id, fun _ => hup⟩
  · exact ⟨rfl, id, id⟩

lemma fades_loseStatus (l : Link) : Fades l l.loseStatus := by
  unfold Link.loseStatus
  split
  · next hup => exact ⟨rfl, fun _ => hup, id⟩
  · exact ⟨rfl, id, id⟩

lemma IsSound.announce (h : IsSound e taken) (change : Change) :
    IsSound (e.step (.announce change)) taken := by
  have hannounced : (e.step (.announce change)).announced = e.announced ++ [change] := by
    rcases hs : e.submitted with _ | _
    · simp [Errand.step, announced, hs, h.unsent hs]
    · simp [Errand.step, announced, hs]
  refine ⟨fun hs => ?_, fun hup => ?_, ?_, h.known.of_eq rfl id⟩
  · have hbefore : e.submitted = false := hs
    simp [Errand.step, hbefore, h.unsent hbefore]
  · rw [hannounced, ← h.whole hup]
    simp [Errand.step, change?_toJson]
  · rw [hannounced]
    exact h.heard.trans (List.prefix_append _ _)

lemma IsSound.hearStatus (h : IsSound e taken) : IsSound (e.step .hearStatus) taken := by
  rcases htransit : e.transit with _ | ⟨f, rest⟩
  · simpa [Errand.step, htransit] using h
  have hstep : e.step .hearStatus = { e with link := e.link.hearStatus f, transit := rest } := by
    simp [Errand.step, htransit]
  rw [hstep]
  by_cases hup : e.link.status = .up
  · obtain ⟨hchanges, hcommand⟩ := hearStatus_of_up hup f
    have hwhole : taken ++ (e.link.hearStatus f).changes ++ rest.filterMap change? =
        e.announced := by
      rw [← h.whole hup, htransit, hchanges]
      cases hf : change? f <;> simp [hf]
    refine ⟨h.unsent, fun _ => hwhole, ⟨_, hwhole⟩, h.known.of_eq rfl ?_⟩
    rintro (hended | hended)
    · exact Or.inl (by rwa [hcommand])
    · exact absurd hup hended
  · rw [hearStatus_of_ended hup]
    exact ⟨h.unsent, fun hcontra => absurd hcontra hup, h.heard, h.known.of_eq rfl id⟩

lemma IsSound.fade (h : IsSound e taken) {link : Link} (hlink : Fades e.link link) :
    IsSound { e with link := link } taken := by
  refine ⟨h.unsent, fun hup => ?_, ?_, h.known.of_eq rfl ?_⟩
  · simp only [hlink.changes]
    exact h.whole (hlink.status hup)
  · simp only [hlink.changes]
    exact h.heard
  · exact Or.imp (fun hended hup => hended (hlink.command hup))
      fun hended hup => hended (hlink.status hup)

/-- When the client takes what came, it has all that waited in its link. -/
lemma IsSound.take (h : IsSound e taken) {run : Run}
    (hknown : Knows { e with run := run, link := e.link.take.1 } (taken ++ e.link.changes)
      run.stage) :
    IsSound { e with run := run, link := e.link.take.1 } (taken ++ e.link.changes) where
  unsent := h.unsent
  whole hup := by simpa [Link.take, announced] using h.whole hup
  heard := by simpa [Link.take, announced] using h.heard
  known := hknown

/-- The same, when it closes both connections and is done. -/
lemma IsSound.close (h : IsSound e taken) {run : Run} {exit : Exit}
    (hstage : run.stage = .exited exit)
    (hexit : e.submitted = true → ∃ heard, heard <+: taken ∧ exit = .ofFinal (verdict? heard)) :
    IsSound { e with run := run, link := e.link.take.1.close } (taken ++ e.link.changes) where
  unsent := h.unsent
  whole hup := by simp [Link.close] at hup
  heard := by simpa [Link.take, Link.close, announced] using h.heard
  known := by
    rw [hstage]
    intro hs
    obtain ⟨heard, hheard, heq⟩ := hexit hs
    exact ⟨heard, hheard.trans (List.prefix_append _ _), heq,
      fun _ => Or.inl (by simp [Link.close])⟩

lemma IsSound.advance_opening (h : IsSound e taken) (hstage : e.run.stage = .opening)
    (opening : Option (Except Error Unit)) (now : Nat) :
    IsSound (e.step (.advance opening now)) taken := by
  have hknown := h.known
  rw [hstage] at hknown
  obtain ⟨hunsent, rfl⟩ := hknown
  have hfailed : ∀ exit : Exit, e.submitted = true → ∃ heard, heard <+: [] ∧
      exit = .ofFinal (verdict? heard) ∧ (verdict? heard = none → e.HasEnded) :=
    fun exit hs => absurd (hunsent.symm.trans hs) (by decide)
  rcases opening with _ | err | u
  · simpa [Errand.step, Run.advance, hstage] using h
  · simp only [Errand.step, Run.advance, hstage]
    exact ⟨h.unsent, h.whole, h.heard, hfailed _⟩
  · rcases hreadOnly : e.link.settings.readOnly with _ | _
    · rcases hask : e.link.ask (.command e.run.command.line) with err | f
      · simp only [Errand.step, Run.advance, hstage, hreadOnly, hask, Bool.false_eq_true, if_false]
        exact ⟨h.unsent, h.whole, h.heard, hfailed _⟩
      · simp only [Errand.step, Run.advance, hstage, hreadOnly, hask, Bool.false_eq_true, if_false]
        exact ⟨nofun, h.whole, h.heard, rfl, rfl⟩
    · simp only [Errand.step, Run.advance, hstage, hreadOnly, if_true]
      exact ⟨h.unsent, h.whole, h.heard, hunsent⟩

lemma IsSound.advance_following (h : IsSound e taken) {pursuit : Pursuit}
    (hstage : e.run.stage = .following pursuit) (opening : Option (Except Error Unit))
    (now : Nat) : IsSound (e.step (.advance opening now)) (taken ++ e.link.changes) := by
  have hknown := h.known
  rw [hstage] at hknown
  obtain ⟨rfl, -⟩ := hknown
  have hfold : e.link.take.2.2.foldl Pursuit.note (taken.foldl Pursuit.note .begun) =
      (taken ++ e.link.changes).foldl Pursuit.note .begun := List.foldl_append.symm
  have hverdict := final_foldl_note_begun (taken ++ e.link.changes)
  simp only [Errand.step, Run.advance, hstage, hfold, hverdict]
  split_ifs with hstop
  · refine h.take ⟨_, List.prefix_refl _, rfl, fun hnone => ?_⟩
    simp only [hnone, Option.isSome_none, Bool.false_or, Bool.or_eq_true] at hstop
    exact hstop.imp of_decide_eq_true of_decide_eq_true
  · refine h.take ⟨rfl, ?_⟩
    simp only [Bool.or_eq_true, not_or] at hstop
    rw [hverdict]
    exact Option.not_isSome_iff_eq_none.1 hstop.1.1

lemma IsSound.advance (h : IsSound e taken) (opening : Option (Except Error Unit)) (now : Nat) :
    ∃ taken, IsSound (e.step (.advance opening now)) taken := by
  have hknown := h.known
  rcases hstage : e.run.stage with _ | pursuit | ⟨final, limit⟩ | _ | exit
  · exact ⟨_, h.advance_opening hstage opening now⟩
  · exact ⟨_, h.advance_following hstage opening now⟩
  · rw [hstage] at hknown
    obtain ⟨heard, hheard, hfinal, hnone⟩ := hknown
    refine ⟨taken ++ e.link.changes, ?_⟩
    simp only [Errand.step, Run.advance, hstage]
    generalize (if e.link.take.2.1.isEmpty then limit else now + Run.grace) = limit'
    split_ifs with hstop
    · exact h.close rfl fun _ => ⟨heard, hheard, by rw [hfinal]⟩
    · exact h.take ⟨heard, hheard.trans (List.prefix_append _ _), hfinal, hnone⟩
  · rw [hstage] at hknown
    refine ⟨taken ++ e.link.changes, ?_⟩
    simp only [Errand.step, Run.advance, hstage]
    split_ifs with hstop
    · exact h.close rfl fun hs => absurd (hknown.symm.trans hs) (by decide)
    · refine h.take ?_
      change Knows _ _ e.run.stage
      rw [hstage]
      exact hknown
  · exact ⟨taken, by simpa [Errand.step, Run.advance, hstage] using h⟩

/-- Nothing that happens on an errand breaks this, -/
lemma IsSound.step (h : IsSound e taken) (event : Event) :
    ∃ taken, IsSound (e.step event) taken := by
  cases event with
  | announce change => exact ⟨_, h.announce change⟩
  | interject f hf =>
    refine ⟨taken, h.unsent, fun hup => ?_, h.heard, h.known.of_eq rfl id⟩
    simpa [Errand.step, announced, hf] using h.whole hup
  | hearStatus => exact ⟨_, h.hearStatus⟩
  | hearCommand f => exact ⟨_, h.fade (fades_hearCommand e.link f)⟩
  | loseStatus => exact ⟨_, h.fade (fades_loseStatus e.link)⟩
  | loseCommand => exact ⟨_, h.fade (fades_loseCommand e.link)⟩
  | advance opening now => exact h.advance opening now

/-- in any order. -/
lemma IsSound.play (h : IsSound e taken) (events : List Event) :
    ∃ taken, IsSound (e.play events) taken := by
  induction events generalizing e taken with
  | nil => exact ⟨taken, h⟩
  | cons event events ih =>
    obtain ⟨more, hstep⟩ := h.step event
    exact ih hstep

/-- Once the client has sent its command it follows, until it tells the verdict on what it heard. -/
lemma IsSound.tells (h : IsSound e taken) (hs : e.submitted = true) :
    (∃ pursuit, e.run.stage = .following pursuit) ∨
      ∃ heard, heard <+: e.announced ∧ e.Tells (verdict? heard) ∧
        (verdict? heard = none → e.HasEnded) := by
  have hknown := h.known
  have hheard : ∀ heard, heard <+: taken → heard <+: e.announced :=
    fun heard hprefix => hprefix.trans ((List.prefix_append _ _).trans h.heard)
  rcases hstage : e.run.stage with _ | pursuit | ⟨final, limit⟩ | _ | exit
  · rw [hstage] at hknown
    exact absurd (hs.symm.trans hknown.1) (by decide)
  · exact Or.inl ⟨pursuit, rfl⟩
  · rw [hstage] at hknown
    obtain ⟨heard, hprefix, rfl, hnone⟩ := hknown
    exact Or.inr ⟨heard, hheard heard hprefix, Or.inl ⟨limit, hstage⟩, hnone⟩
  · rw [hstage] at hknown
    exact absurd (hs.symm.trans hknown) (by decide)
  · rw [hstage] at hknown
    obtain ⟨heard, hprefix, rfl, hnone⟩ := hknown hs
    exact Or.inr ⟨heard, hheard heard hprefix, Or.inr hstage, hnone⟩

end Errand

/-- **A client tells how the first task ended that was announced as new since it listens.**  Once it
has sent its command it follows, until it tells the verdict on what it has heard, which it does
without a final status only when a connection has ended.  A final status is the verdict on all that
was announced.  It is that of the client's own command if no task was announced as new before the
command was sent; otherwise it is that of a task that was, and only in the first case does what was
announced before not matter. -/
theorem tells_first_announced (command : Command) (events : List Errand.Event) :
    let e := (Errand.start command).play events
    e.submitted = true →
    ((∀ later, verdict? (e.earlier ++ later) = verdict? later) ↔
      ∀ c ∈ e.earlier, c.before ≠ .new) ∧
    ((∃ pursuit, e.run.stage = .following pursuit) ∨
      ∃ heard, heard <+: e.announced ∧ e.Tells (verdict? heard) ∧
        (verdict? heard = none → e.HasEnded) ∧
        ∀ st, verdict? heard = some st → verdict? e.announced = some st ∧
          ((∀ c ∈ e.earlier, c.before ≠ .new) → verdict? e.later = some st) ∧
          ((∃ c ∈ e.earlier, c.before = .new) → ∃ first ∈ e.earlier, first.before = .new ∧
            ∃ last ∈ e.announced, last.task = first.task ∧ last.isFinal = true ∧
              last.after = st)) := by
  intro e hsubmitted
  obtain ⟨taken, h⟩ := (Errand.isSound_start command).play events
  refine ⟨forall_verdict?_append_iff e.earlier, ?_⟩
  refine h.tells hsubmitted |>.imp_right ?_
  rintro ⟨heard, hprefix, htells, hnone⟩
  refine ⟨heard, hprefix, htells, hnone, fun st hst => ?_⟩
  obtain ⟨more, hmore⟩ := hprefix
  have hall : verdict? e.announced = some st := by
    rw [← hmore]
    exact verdict?_append_of_eq_some hst more
  exact ⟨hall, verdict?_append_eq_some hall⟩

/-! ## A command of one's own, and one of somebody else -/

namespace Errand

/-- Changes are announced and heard one by one. -/
def arrivals (changes : List Change) : List Event :=
  changes.flatMap fun change => [.announce change, .hearStatus]

/-- The client has heard more changes. -/
def hear (e : Errand) (changes : List Change) : Errand :=
  { e with
    link := { e.link with changes := e.link.changes ++ changes }
    earlier := if e.submitted then e.earlier else e.earlier ++ changes
    later := if e.submitted then e.later ++ changes else e.later }

lemma play_append (e : Errand) (events more : List Event) :
    e.play (events ++ more) = (e.play events).play more :=
  List.foldl_append

lemma play_arrivals {e : Errand} (htransit : e.transit = []) (hup : e.link.status = .up)
    (changes : List Change) : e.play (arrivals changes) = e.hear changes := by
  induction changes generalizing e with
  | nil =>
    simp [arrivals, play, hear]
  | cons change changes ih =>
    have hone : e.play [.announce change, .hearStatus] = e.hear [change] := by
      simp [play, step, hear, htransit, Link.hearStatus, hup, Change.parse_toJson]
    rw [arrivals, List.flatMap_cons, play_append, hone, ← arrivals,
      ih (e := e.hear [change]) htransit hup]
    rcases hs : e.submitted with _ | _ <;> simp [hear, hs]

/-- The client hears that the session is ready, and sends its command. -/
def submission : List Event :=
  [.hearCommand (.binary (utf8 Task.readyMarker)), .advance (some (.ok ())) 0]

lemma play_submission {e : Errand} (hstage : e.run.stage = .opening)
    (hup : e.link.command = .up) (hdrives : e.link.settings.readOnly = false) :
    e.play submission =
      { e with
        run := { e.run with stage := .following .begun }
        link := { e.link with ready := true }
        submitted := true } := by
  simp [play, submission, step, Link.hearCommand, Link.takeOutput, Run.advance, Link.ask,
    Line.obstacle?, hstage, hup, hdrives]

/-- A client that follows and knows the final status goes on to tell it. -/
lemma advance_of_final {e : Errand} {pursuit : Pursuit} {st : Status}
    (hstage : e.run.stage = .following pursuit)
    (hfinal : (e.link.changes.foldl Pursuit.note pursuit).final = some st) (now : Nat) :
    e.play [.advance none now] =
      { e with
        run := { e.run.print e.link.output with stage := .lingering (some st) (now + Run.grace) }
        link := e.link.take.1 } := by
  simp [play, step, Run.advance, hstage, Link.take, hfinal]

/-- The client hears some changes before it sends its command and some afterwards, and goes on. -/
def errand (before after : List Change) : List Event :=
  arrivals before ++ submission ++ arrivals after ++ [.advance none 0]

/-- It tells the verdict on all of them, if there is one. -/
lemma play_errand (command : Command) (hdrives : command.settings.readOnly = false)
    (before after : List Change) {st : Status} (h : verdict? (before ++ after) = some st) :
    let e := (start command).play (errand before after)
    e.submitted = true ∧ e.run.stage = .lingering (some st) Run.grace ∧ e.earlier = before ∧
      e.later = after := by
  have hbefore : (start command).play (arrivals before) = (start command).hear before :=
    play_arrivals rfl rfl before
  have hsubmission := play_submission (e := (start command).hear before) rfl rfl hdrives
  have hafter := play_arrivals (e := ((start command).hear before).play submission)
    (by rw [hsubmission]; rfl) (by rw [hsubmission]; rfl) after
  have hfinal := final_foldl_note_begun (before ++ after)
  rw [List.foldl_append, h] at hfinal
  rw [errand, play_append, play_append, play_append, hbefore, hafter, hsubmission]
  rw [advance_of_final rfl (by rw [hear, List.foldl_append]; exact hfinal)]
  exact ⟨rfl, by simp, rfl, rfl⟩

/-- A command line of a client that drives. -/
def build : Command :=
  ⟨⟨Command.defaultUrl, "", .binary, false, Settings.defaultTimeout⟩, "make"⟩

end Errand

/-- A task that was new before the client listened is not taken for its own. -/
theorem tells_own_failure :
    let e := (Errand.start Errand.build).play (Errand.errand [⟨"1", .running, .done, ""⟩]
      [⟨"2", .new, .running, ""⟩, ⟨"2", .running, .failed, ""⟩])
    e.submitted = true ∧ e.Tells (some .failed) ∧ verdict? e.later = some .failed := by
  have hverdict : verdict? ([⟨"1", .running, .done, ""⟩] ++ [⟨"2", .new, .running, ""⟩,
      ⟨"2", .running, .failed, ""⟩]) = some .failed := by decide
  obtain ⟨hsubmitted, hstage, hearlier, -⟩ := Errand.play_errand Errand.build rfl _ _ hverdict
  have htold := tells_first_announced Errand.build (Errand.errand [⟨"1", .running, .done, ""⟩]
      [⟨"2", .new, .running, ""⟩, ⟨"2", .running, .failed, ""⟩]) hsubmitted
  generalize (Errand.start Errand.build).play _ = e at hsubmitted hstage hearlier htold ⊢
  obtain ⟨-, ⟨pursuit, hfollowing⟩ | ⟨heard, -, htells, -, hst⟩⟩ := htold
  · rw [hstage] at hfollowing
    cases hfollowing
  · have hheard : verdict? heard = some .failed := htells.eq_of_lingering hstage
    rw [hheard] at htells
    refine ⟨hsubmitted, htells, (hst .failed hheard).2.1 ?_⟩
    rw [hearlier]
    simp

/-- A task that becomes new before the client sends its command is. -/
theorem not_forall_tells_own :
    ¬ ∀ (command : Command) (events : List Errand.Event) (st : Status) (limit : Nat),
      let e := (Errand.start command).play events
      e.run.stage = .lingering (some st) limit → verdict? e.later = some st := by
  intro h
  have hverdict : verdict? ([⟨"1", .new, .running, ""⟩] ++ [⟨"1", .running, .done, ""⟩,
      ⟨"2", .new, .running, ""⟩, ⟨"2", .running, .failed, ""⟩]) = some .done := by decide
  obtain ⟨-, hstage, -, hlater⟩ := Errand.play_errand Errand.build rfl _ _ hverdict
  have hown := h Errand.build _ .done Run.grace hstage
  rw [hlater] at hown
  exact absurd hown (by decide)

end SharedTerminal.Client
