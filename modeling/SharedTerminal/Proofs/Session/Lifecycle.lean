import SharedTerminal.Session.Lifecycle
import Mathlib.Data.List.DropRight
import Mathlib.Tactic.Common

/-!
# The life of a session, read off its history

`Lifecycle.apply` keeps two flags and a presence, and tells what to do as it goes.  All of it can
be read off the list of what has happened so far: whether a command runs is a matter of the status
that was reported last (`isRunning`), whether there is a driver one of the arrivals since a driver
last left (`isDriven`), and the session ends with the first occurrence after which neither is the
case, unless that is the arrival of a driver, or with the first one that tells it to (`ends`).

One occurrence leads from the reading of a history to that of the history with the occurrence
(`apply_reading`).  The main statement is `life_eq_history`.
-/

namespace SharedTerminal.Session

/-- The status that an occurrence reports. -/
def Occurrence.status? : Occurrence → Option Task.Status
  | .statusChanged status => some status
  | _ => none

namespace Lifecycle

variable {h past : List Occurrence} {o : Occurrence}

/-! ## Whole lives -/

/-- The state after a list of occurrences. -/
def after (l : Lifecycle) (h : List Occurrence) : Lifecycle := h.foldl (fun l o => (l.apply o).1) l

/-- What is to be done in the course of a list of occurrences, in order. -/
def tasks (l : Lifecycle) : List Occurrence → List Effect
  | [] => []
  | o :: h => (l.apply o).2 ++ tasks (l.apply o).1 h

lemma after_append (l : Lifecycle) (h more : List Occurrence) :
    l.after (h ++ more) = (l.after h).after more :=
  List.foldl_append

lemma after_concat (l : Lifecycle) (h : List Occurrence) (o : Occurrence) :
    l.after (h ++ [o]) = ((l.after h).apply o).1 :=
  l.after_append h [o]

lemma tasks_append (l : Lifecycle) (h more : List Occurrence) :
    l.tasks (h ++ more) = l.tasks h ++ (l.after h).tasks more := by
  induction h generalizing l with
  | nil => rfl
  | cons o h ih =>
    have hrest : l.after (o :: h) = (l.apply o).1.after h := rfl
    rw [List.cons_append, tasks, ih, tasks, hrest, List.append_assoc]

lemma tasks_concat (l : Lifecycle) (h : List Occurrence) (o : Occurrence) :
    l.tasks (h ++ [o]) = l.tasks h ++ ((l.after h).apply o).2 := by
  rw [tasks_append, tasks, tasks, List.append_nil]

/-! ## What a history says -/

/-- The status that was reported last. -/
def lastStatus? (h : List Occurrence) : Option Task.Status :=
  (h.filterMap Occurrence.status?).getLast?

/-- Whether a command runs: the last status is not final. -/
def isRunning (h : List Occurrence) : Bool := (lastStatus? h).any fun status => !status.isFinal

/-- Whether a driver has come since a driver last left, or at all if none ever left. -/
def isDriven (h : List Occurrence) : Bool :=
  (h.rtakeWhile (· != .driverDetached)).contains .driverAttached

/-- Whether a driver never came, is there, or came and left. -/
def presenceAfter (h : List Occurrence) : Presence :=
  if !h.contains .driverAttached then .never
  else if isDriven h then .attached
  else .departed

/-- Whether a session ends with an occurrence, after a past in which it did not: it is told to, or
something other than the arrival of a driver happens, after which no command runs and no driver is
there. -/
def ends (past : List Occurrence) (o : Occurrence) : Bool :=
  o = .shutdown ||
    o != .driverAttached && !isRunning (past ++ [o]) && !isDriven (past ++ [o])

/-- A session with a history goes on. -/
def GoesOn (h : List Occurrence) : Prop :=
  ∀ past o later, h = past ++ o :: later → ends past o = false

/-- What an occurrence asks for, after a past in which the session did not end.  The first driver
needs the engine, and a driver that finds another one has to observe; a status is announced, and a
final one is also written to the observers, just before. -/
def owed (past : List Occurrence) : Occurrence → List Effect
  | .driverAttached =>
    if !past.contains .driverAttached then [.startEngine]
    else if isDriven past then [.demote]
    else []
  | .statusChanged status =>
    if status.isFinal then [.appendCompletion status, .notifyListeners] else [.notifyListeners]
  | _ => []

/-- What a list of occurrences asks for, after a past. -/
def owedIn (past : List Occurrence) : List Occurrence → List Effect
  | [] => []
  | o :: h => owed past o ++ owedIn (past ++ [o]) h

/-- The state of a session that goes on, as its history has it. -/
def reading (h : List Occurrence) : Lifecycle := ⟨isRunning h, presenceAfter h, false⟩

/-! ## One more occurrence -/

lemma lastStatus?_concat (h : List Occurrence) (o : Occurrence) :
    lastStatus? (h ++ [o]) = o.status?.or (lastStatus? h) := by
  rw [lastStatus?, lastStatus?, List.filterMap_append, List.getLast?_append]
  cases o <;> rfl

lemma isRunning_concat (ho : o.status? = none) : isRunning (h ++ [o]) = isRunning h := by
  rw [isRunning, lastStatus?_concat, ho, Option.none_or, isRunning]

lemma isRunning_report (h : List Occurrence) (status : Task.Status) :
    isRunning (h ++ [.statusChanged status]) = !status.isFinal := by
  rw [isRunning, lastStatus?_concat]
  rfl

@[simp] lemma isDriven_arrival (h : List Occurrence) : isDriven (h ++ [.driverAttached]) = true := by
  simp [isDriven, List.rtakeWhile_concat_pos]

@[simp] lemma isDriven_departure (h : List Occurrence) :
    isDriven (h ++ [.driverDetached]) = false := by
  simp [isDriven, List.rtakeWhile_concat_neg]

lemma isDriven_concat (ha : o ≠ .driverAttached) (hd : o ≠ .driverDetached) :
    isDriven (h ++ [o]) = isDriven h := by
  have hstays : (fun p : Occurrence => p != .driverDetached) o = true := by simpa using hd
  rw [isDriven, List.rtakeWhile_concat_pos _ _ o hstays]
  simp [isDriven, ha.symm]

/-- A driver that is there has come. -/
lemma mem_of_isDriven (hd : isDriven h = true) : .driverAttached ∈ h :=
  (List.rtakeWhile_suffix _ h).mem (by simpa [isDriven] using hd)

/-- There is a driver just if one has come and nobody left since. -/
lemma presenceAfter_eq_attached_iff (h : List Occurrence) :
    presenceAfter h = .attached ↔ isDriven h = true := by
  rcases hd : isDriven h with _ | _
  · simp only [presenceAfter, hd]
    split <;> simp
  · simp [presenceAfter, mem_of_isDriven hd, hd]

lemma presenceAfter_arrival (h : List Occurrence) :
    presenceAfter (h ++ [.driverAttached]) = .attached := by
  rw [presenceAfter_eq_attached_iff]
  exact isDriven_arrival h

lemma presenceAfter_departure (h : List Occurrence) :
    presenceAfter (h ++ [.driverDetached]) = leave (presenceAfter h) := by
  rcases hc : h.contains .driverAttached with _ | _
  · simp_all [presenceAfter, leave]
  · rcases hd : isDriven h with _ | _
    · simp_all [presenceAfter, leave]
    · simp_all [presenceAfter, leave]

lemma presenceAfter_concat (ha : o ≠ .driverAttached) (hd : o ≠ .driverDetached) :
    presenceAfter (h ++ [o]) = presenceAfter h := by
  simp [presenceAfter, isDriven_concat ha hd, ha.symm]

/-- What the arrival of a driver asks for is a matter of who came before. -/
lemma welcome_presenceAfter (past : List Occurrence) :
    welcome (presenceAfter past) = owed past .driverAttached := by
  rcases hc : past.contains .driverAttached with _ | _
  · simp_all [presenceAfter, welcome, owed]
  · rcases hd : isDriven past with _ | _ <;> simp_all [presenceAfter, welcome, owed]

/-- A reading is abandoned if no command runs and no driver is there. -/
lemma isAbandoned_reading (h : List Occurrence) :
    (reading h).isAbandoned = (!isRunning h && !isDriven h) := by
  have hpresence : (presenceAfter h != .attached) = !isDriven h := by
    rw [Bool.eq_iff_iff]
    simp [presenceAfter_eq_attached_iff]
  rw [isAbandoned, reading, hpresence]

/-- The state that is settled after an occurrence, and what is done about it. -/
lemma settle_reading (ho : o ≠ .shutdown) (ha : o ≠ .driverAttached) (effects : List Effect) :
    (reading (past ++ [o])).settle effects =
      ({ reading (past ++ [o]) with destroyed := ends past o },
        effects ++ if ends past o then [.destroy] else []) := by
  have hother : (o != .driverAttached) = true := by simpa using ha
  have hends : ends past o = (reading (past ++ [o])).isAbandoned := by
    rw [isAbandoned_reading, ends, decide_eq_false ho, hother, Bool.false_or, Bool.true_and]
  rcases hab : (reading (past ++ [o])).isAbandoned with _ | _
  · rw [settle, hends, hab, if_neg (by decide), if_neg (by decide), List.append_nil]
    rfl
  · rw [settle, hends, hab]
    rfl

/-- **One more occurrence.**  From the reading of a history it leads to that of the history with
the occurrence, and asks for what is owed, and for the end if the session ends with it. -/
theorem apply_reading (past : List Occurrence) (o : Occurrence) :
    (reading past).apply o =
      ({ reading (past ++ [o]) with destroyed := ends past o },
        owed past o ++ if ends past o then [.destroy] else []) := by
  have hlive : (reading past).destroyed = false := rfl
  -- What neither comes nor leaves nor reports changes nothing in the reading.
  have hkept : ∀ p : Occurrence, p ≠ .driverAttached → p ≠ .driverDetached → p.status? = none →
      reading past = reading (past ++ [p]) := by
    intro p ha hd hs
    rw [reading, reading, isRunning_concat hs, presenceAfter_concat ha hd]
  cases o with
  | driverAttached =>
    have hrunning : isRunning (past ++ [.driverAttached]) = isRunning past := isRunning_concat rfl
    have hgoes : ends past .driverAttached = false := by simp [ends]
    simp [apply, reading, hgoes, hrunning, presenceAfter_arrival, welcome_presenceAfter]
  | driverDetached =>
    have hleft : (⟨(reading past).active, leave (reading past).driver, false⟩ : Lifecycle) =
        reading (past ++ [.driverDetached]) := by
      rw [reading, reading, isRunning_concat rfl, presenceAfter_departure]
    rw [apply, hlive, if_neg (by decide), hleft]
    exact settle_reading (by decide) (by decide) []
  | observerDetached =>
    rw [apply, hlive, if_neg (by decide), hkept .observerDetached (by decide) (by decide) rfl]
    exact settle_reading (by decide) (by decide) []
  | listenerDetached =>
    rw [apply, hlive, if_neg (by decide), hkept .listenerDetached (by decide) (by decide) rfl]
    exact settle_reading (by decide) (by decide) []
  | engineFailed =>
    rw [apply, hlive, if_neg (by decide), hkept .engineFailed (by decide) (by decide) rfl]
    exact settle_reading (by decide) (by decide) []
  | shutdown =>
    have hends : ends past .shutdown = true := by simp [ends]
    rw [apply, hlive, if_neg (by decide), hkept .shutdown (by decide) (by decide) rfl, hends]
    rfl
  | statusChanged status =>
    have hreported : (⟨!status.isFinal, (reading past).driver, false⟩ : Lifecycle) =
        reading (past ++ [.statusChanged status]) := by
      rw [reading, reading, isRunning_report, presenceAfter_concat (by simp) (by simp)]
    rw [apply, hlive, if_neg (by decide), hreported]
    exact settle_reading (by simp) (by simp) (report status)

/-! ## Going on, and the end -/

lemma goesOn_nil : GoesOn [] := by
  intro past o later heq
  simp at heq

/-- A history without its last occurrence goes on if the whole does. -/
lemma goesOn_concat_iff : GoesOn (h ++ [o]) ↔ GoesOn h ∧ ends h o = false := by
  constructor
  · intro hgoes
    refine ⟨fun past p later heq => ?_, hgoes h o [] rfl⟩
    exact hgoes past p (later ++ [o]) (by simp [heq])
  · rintro ⟨hgoes, hlast⟩ past p later heq
    rcases List.eq_nil_or_concat later with rfl | ⟨rest, last, rfl⟩
    · -- The occurrence is the last one.
      obtain ⟨rfl, hp⟩ := List.append_inj' heq rfl
      obtain rfl : o = p := by simpa using hp
      exact hlast
    · have hsplit : h ++ [o] = (past ++ p :: rest) ++ [last] := by simp [heq]
      obtain ⟨rfl, -⟩ := List.append_inj' hsplit rfl
      exact hgoes past p rest rfl

/-- A history goes on, or has a first occurrence with which the session ends. -/
lemma goesOn_or_exists (h : List Occurrence) :
    GoesOn h ∨ ∃ past o later, h = past ++ o :: later ∧ GoesOn past ∧ ends past o = true := by
  induction h using List.reverseRecOn with
  | nil => exact Or.inl goesOn_nil
  | append_singleton h o ih =>
    rcases ih with hgoes | ⟨past, p, later, rfl, hpast, hends⟩
    · rcases hends : ends h o with _ | _
      · exact Or.inl (goesOn_concat_iff.2 ⟨hgoes, hends⟩)
      · exact Or.inr ⟨h, o, [], rfl, hgoes, hends⟩
    · exact Or.inr ⟨past, p, later ++ [o], by simp, hpast, hends⟩

lemma owedIn_append (past h more : List Occurrence) :
    owedIn past (h ++ more) = owedIn past h ++ owedIn (past ++ h) more := by
  induction h generalizing past with
  | nil => simp [owedIn]
  | cons o h ih => simp [owedIn, ih]

/-- The end is never owed to an occurrence. -/
lemma destroy_notMem_owedIn (past h : List Occurrence) : .destroy ∉ owedIn past h := by
  have howed : ∀ (past : List Occurrence) (o : Occurrence), .destroy ∉ owed past o := by
    intro past o
    cases o with
    | driverAttached =>
      simp only [owed]
      split
      · simp
      · split <;> simp
    | statusChanged status =>
      simp only [owed]
      split <;> simp
    | _ => simp [owed]
  induction h generalizing past with
  | nil => simp [owedIn]
  | cons o h ih => simp [owedIn, howed, ih]

/-- As long as the session goes on, its state is the reading of its history, and what was to be
done is what was owed. -/
lemma after_of_goesOn (hgoes : GoesOn h) :
    initial.after h = reading h ∧ initial.tasks h = owedIn [] h := by
  induction h using List.reverseRecOn with
  | nil => exact ⟨rfl, rfl⟩
  | append_singleton h o ih =>
    obtain ⟨hbefore, hlast⟩ := goesOn_concat_iff.1 hgoes
    obtain ⟨hstate, htasks⟩ := ih hbefore
    rw [after_concat, tasks_concat, hstate, htasks, apply_reading, hlast, owedIn_append]
    exact ⟨rfl, by simp [owedIn]⟩

/-- The occurrence with which a session ends. -/
lemma after_of_ends (hgoes : GoesOn past) (hends : ends past o = true) :
    initial.after (past ++ [o]) = { reading (past ++ [o]) with destroyed := true } ∧
      initial.tasks (past ++ [o]) = owedIn [] (past ++ [o]) ++ [.destroy] := by
  obtain ⟨hstate, htasks⟩ := after_of_goesOn hgoes
  rw [after_concat, tasks_concat, hstate, htasks, apply_reading, hends, owedIn_append]
  exact ⟨rfl, by simp [owedIn]⟩

/-- After the end nothing changes and nothing is to be done. -/
lemma after_of_destroyed {l : Lifecycle} (hd : l.destroyed = true) (h : List Occurrence) :
    l.after h = l ∧ l.tasks h = [] := by
  induction h with
  | nil => exact ⟨rfl, rfl⟩
  | cons o h ih =>
    obtain ⟨hstate, htasks⟩ := ih
    have hsame : (l.apply o).1 = l := by rw [apply_of_destroyed hd]
    refine ⟨?_, ?_⟩
    · change (l.apply o).1.after h = l
      rw [hsame, hstate]
    · rw [tasks, hsame, htasks, apply_of_destroyed hd, List.append_nil]

/-- **The life of a session is what its history says.**  A history goes on, or there is a first
occurrence with which the session ends.  As long as it goes on, the state says whether the last
status is one of a command that runs, and whether a driver never came, is there or left; and what
was to be done is what each occurrence asked for, and never the end.  From the occurrence with which
the session ends the state does not change and nothing more is to be done, and the end is the last
thing that was to be done, once. -/
theorem life_eq_history (h : List Occurrence) :
    (GoesOn h ∨ ∃ past o later, h = past ++ o :: later ∧ GoesOn past ∧ ends past o = true) ∧
    (GoesOn h → initial.after h = ⟨isRunning h, presenceAfter h, false⟩ ∧
      initial.tasks h = owedIn [] h ∧ .destroy ∉ initial.tasks h) ∧
    (∀ past o later, h = past ++ o :: later → GoesOn past →
      ((initial.after past).apply o).2 =
        owed past o ++ if ends past o then [.destroy] else []) ∧
    ∀ past o later, h = past ++ o :: later → GoesOn past → ends past o = true →
      initial.after (past ++ [o]) =
        ⟨isRunning (past ++ [o]), presenceAfter (past ++ [o]), true⟩ ∧
      (∀ earlier p rest, later = earlier ++ p :: rest →
        (initial.after (past ++ o :: earlier)).apply p = (initial.after (past ++ [o]), [])) ∧
      initial.after h = initial.after (past ++ [o]) ∧
      initial.tasks h = owedIn [] (past ++ [o]) ++ [.destroy] ∧
      .destroy ∉ owedIn [] (past ++ [o]) := by
  refine ⟨goesOn_or_exists h, fun hgoes => ?_, fun past o later _ hpast => ?_,
    fun past o later heq hpast hends => ?_⟩
  · obtain ⟨hstate, htasks⟩ := after_of_goesOn hgoes
    exact ⟨hstate, htasks, htasks ▸ destroy_notMem_owedIn [] h⟩
  · rw [(after_of_goesOn hpast).1, apply_reading]
  · obtain ⟨hstate, htasks⟩ := after_of_ends hpast hends
    have hover : (initial.after (past ++ [o])).destroyed = true := by rw [hstate]
    have hsplit : ∀ more, past ++ o :: more = (past ++ [o]) ++ more := by simp
    have hlast : ∀ more, initial.after (past ++ o :: more) = initial.after (past ++ [o]) := by
      intro more
      rw [hsplit, after_append, (after_of_destroyed hover more).1]
    refine ⟨hstate, fun earlier p rest _ => ?_, ?_, ?_, destroy_notMem_owedIn [] _⟩
    · rw [hlast, apply_of_destroyed hover]
    · rw [heq, hlast]
    · rw [heq, hsplit, tasks_append, htasks, (after_of_destroyed hover later).2, List.append_nil]

/-- A driver leaves a running command, comes back, and finds a new driver's place taken; the last
status then ends the session that both have left. -/
example :
    initial.tasks [.driverAttached, .statusChanged .running, .driverDetached, .driverAttached,
      .driverAttached, .driverDetached, .statusChanged .done, .driverAttached] =
    [.startEngine, .notifyListeners, .demote, .appendCompletion .done, .notifyListeners,
      .destroy] := by
  decide

end Lifecycle

end SharedTerminal.Session
