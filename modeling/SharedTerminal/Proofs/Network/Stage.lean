import SharedTerminal.Proofs.Network.Joined
import Mathlib.Data.List.Induction

/-!
# The stages of a link

What happens to a link and to the daemon's side of it is a list of events (`Event`).  At the end of
any list the link is in one of three stages (`Stage`): it waits for a ready marker, it can be used,
or it is given up.  It can be used from the first marker on that is said before the command
connection ends and before the deadline (`Timely`), or at once if it only watches; and it is given
up if the connection ends, or the deadline passes, without one.

The main statements are `Stage.step`, for one event, and `Stage.await`, for whoever waits until the
outcome is known.
-/

namespace SharedTerminal.Network

open Client (Link Settings)

/-- What can happen to a link and the daemon's side of it. -/
inductive Event where
  /-- The far end of a connection says something. -/
  | say (w : Wire) (f : Frame)
  /-- The far end of a connection goes away. -/
  | cut (w : Wire)
  /-- Time passes, in milliseconds. -/
  | wait (time : Nat)
  /-- The owner of the link waits for it. -/
  | await
  /-- The owner of the link asks for something. -/
  | ask (action : Action)
deriving Repr

namespace Event

/-- Whether the command connection ends. -/
def ends : Event → Bool
  | say .command f => f.isClose
  | cut .command => true
  | _ => false

/-- The data that is said on the command connection. -/
def data? : Event → Option Bytes
  | say .command f => f.payload?
  | _ => none

/-- Whether a ready marker is said. -/
def isMarker (e : Event) : Bool := e.data? = some (utf8 Task.readyMarker)

/-- The output that is said. -/
def output (e : Event) : List Bytes := e.data?.toList.filter (· ≠ utf8 Task.readyMarker)

/-- How long something takes that nobody waits for. -/
def lasts : Event → Nat
  | wait time => time
  | _ => 0

/-- What becomes of a link. -/
def change : Event → Link → Link
  | say w f, l => w.hear l f
  | cut w, l => w.lose l
  | _, l => l

end Event

/-- Lets something happen to a link with a name, and what follows from it. -/
def happen (name : String) (net : Network) : Event → Network
  | .say w f => (net.send w.far f).1.settle
  | .cut w => (net.cut w.far).1.settle
  | .wait time => net.waitUntil (net.clock + time)
  | .await => (net.awaitLink name).1
  | .ask action => (net.ask name action).1.settle

/-- Lets things happen one after the other. -/
def play (net : Network) (name : String) (events : List Event) : Network :=
  events.foldl (happen name) net

/-- The time at which a link is given up, in milliseconds. -/
def deadline (settings : Settings) : Nat := settings.readyTimeout.nanoseconds / 1000000

/-- Something happens before the command connection ends and before the link is given up. -/
def Timely (start : Network) (name : String) (settings : Settings) (p : Event → Bool)
    (events : List Event) : Prop :=
  ∃ pre e post, events = pre ++ e :: post ∧ p e = true ∧ pre.any Event.ends = false ∧
    (start.play name pre).clock < deadline settings

/-- The output that is said before the command connection ends. -/
def saidIn (events : List Event) : List Bytes :=
  (events.takeWhile fun e => !e.ends).flatMap Event.output

/-! ## One thing after the other -/

variable {net start : Network} {name : String} {settings : Settings} {attempt : Attempt}
  {told : List Frame} {now : Nat} {events : List Event} {e : Event} {l : Link}
  {p : Event → Bool}

lemma play_concat (net : Network) (name : String) (events : List Event) (e : Event) :
    net.play name (events ++ [e]) = (net.play name events).happen name e := by
  simp [play]

lemma output_of_ends (h : e.ends = true) : e.output = [] := by
  cases e with
  | say w f =>
    cases w with
    | status => cases h
    | command =>
      cases f with
      | close reason => rfl
      | _ => cases h
  | cut w => rfl
  | _ => cases h

/-- Output counts until the command connection ends. -/
lemma saidIn_concat (events : List Event) (e : Event) :
    saidIn (events ++ [e]) =
      saidIn events ++ if events.any Event.ends then [] else e.output := by
  induction events with
  | nil =>
    rcases he : e.ends with _ | _
    · simp [saidIn, he]
    · simp [saidIn, he, output_of_ends he]
  | cons first events ih =>
    rcases hfirst : first.ends with _ | _
    · simp only [saidIn] at ih
      simp [saidIn, hfirst, ih]
    · simp [saidIn, hfirst]

lemma timely_nil : ¬ Timely start name settings p [] := by
  rintro ⟨pre, e, post, heq, -⟩
  simp at heq

/-- What happens last is timely if nothing has ended the connection and there is still time. -/
lemma timely_concat :
    Timely start name settings p (events ++ [e]) ↔
      Timely start name settings p events ∨
        p e = true ∧ events.any Event.ends = false ∧ (start.play name events).clock <
          deadline settings := by
  constructor
  · rintro ⟨pre, x, post, heq, hx, hpre, hclock⟩
    rcases List.eq_nil_or_concat post with rfl | ⟨rest, last, rfl⟩
    · obtain ⟨rfl, hlast⟩ := List.append_inj' heq rfl
      obtain rfl := List.singleton_inj.1 hlast
      exact Or.inr ⟨hx, hpre, hclock⟩
    · rw [List.concat_eq_append, ← List.cons_append, ← List.append_assoc] at heq
      obtain ⟨rfl, -⟩ := List.append_inj' heq rfl
      exact Or.inl ⟨pre, x, rest, rfl, hx, hpre, hclock⟩
  · rintro (⟨pre, x, post, rfl, hx, hpre, hclock⟩ | ⟨he, hends, hclock⟩)
    · exact ⟨pre, x, post ++ [e], by simp, hx, hpre, hclock⟩
    · exact ⟨events, e, [], rfl, he, hends, hclock⟩

/-- As long as the connection stands and there is time, what happens next is timely. -/
lemma timely_concat_of_early (hclock : (start.play name events).clock = now)
    (hnot : ¬ Timely start name settings p events) (on : events.any Event.ends = false)
    (early : now < deadline settings) :
    Timely start name settings p (events ++ [e]) ↔ p e = true := by
  rw [timely_concat, hclock]
  simp [hnot, on, early]

/-- Once the connection has ended, or time is up, nothing that happens is timely any more. -/
lemma timely_concat_of_late (hclock : (start.play name events).clock = now)
    (late : events.any Event.ends = true ∨ deadline settings ≤ now) :
    Timely start name settings p (events ++ [e]) ↔ Timely start name settings p events := by
  rw [timely_concat, hclock]
  constructor
  · rintro (hp | ⟨-, hon, hearly⟩)
    · exact hp
    · rcases late with hoff | hlate
      · rw [hon] at hoff
        cases hoff
      · omega
  · exact Or.inl

/-! ## What becomes of a link -/

/-- Two links are the same as far as the command connection is concerned. -/
structure Alike (l next : Link) : Prop where
  /-- The settings are the same. -/
  settings : next.settings = l.settings
  /-- The connection stands the same. -/
  command : next.command = l.command
  /-- Both are ready, or none is. -/
  ready : next.ready = l.ready
  /-- The output is the same. -/
  output : next.output = l.output

lemma Alike.refl (l : Link) : Alike l l := ⟨rfl, rfl, rfl, rfl⟩

lemma alike_hearStatus (l : Link) (f : Frame) : Alike l (l.hearStatus f) := by
  obtain ⟨status, changes, hlink, -⟩ := Link.hearStatus_cases l f
  rw [hlink]
  exact ⟨rfl, rfl, rfl, rfl⟩

lemma alike_loseStatus (l : Link) : Alike l l.loseStatus := by
  unfold Link.loseStatus
  split
  · exact ⟨rfl, rfl, rfl, rfl⟩
  · exact Alike.refl l

/-- Nothing comes of a command connection that is not up. -/
lemma alike_change (hup : l.command ≠ .up) (e : Event) : Alike l (e.change l) := by
  cases e with
  | say w f =>
    cases w with
    | status => exact alike_hearStatus l f
    | command =>
      show Alike l (l.hearCommand f)
      rw [Link.hearCommand_eq, if_neg hup]
      exact Alike.refl l
  | cut w =>
    cases w with
    | status => exact alike_loseStatus l
    | command =>
      show Alike l l.loseCommand
      rw [Link.loseCommand, if_neg hup]
      exact Alike.refl l
  | _ => exact Alike.refl l

/-- What a link takes while the command connection is up. -/
structure Takes (l next : Link) (e : Event) : Prop where
  /-- The settings are the same. -/
  settings : next.settings = l.settings
  /-- A ready marker is noted. -/
  ready : next.ready = (l.ready || e.isMarker)
  /-- Output is taken. -/
  output : next.output = l.output ++ e.output
  /-- The connection is up until it ends. -/
  up_iff : next.command = .up ↔ e.ends = false
  /-- The link does not close it. -/
  open_ : next.command ≠ .shut

lemma takes_of_alike (hup : l.command = .up) {next : Link} (h : Alike l next)
    (hdata : e.data? = none) (hends : e.ends = false) : Takes l next e := by
  have hmarker : e.isMarker = false := by simp [Event.isMarker, hdata]
  have houtput : e.output = [] := by simp [Event.output, hdata]
  refine ⟨h.settings, ?_, ?_, ?_, ?_⟩
  · rw [h.ready, hmarker, Bool.or_false]
  · rw [h.output, houtput, List.append_nil]
  · rw [h.command, hup, hends]
    simp
  · rw [h.command, hup]
    decide

lemma takes_hearCommand (hup : l.command = .up) (f : Frame) :
    Takes l (l.hearCommand f) (.say .command f) := by
  have htake : ∀ data, f.payload? = some data → Takes l (l.takeOutput data) (.say .command f) := by
    intro data hdata
    have hopen : f.isClose = false := by
      cases f with
      | close reason => cases hdata
      | _ => rfl
    rw [Link.takeOutput_eq]
    by_cases hmarker : data = utf8 Task.readyMarker <;>
      refine ⟨rfl, ?_, ?_, ?_, ?_⟩ <;>
        simp [Event.isMarker, Event.output, Event.data?, Event.ends, hdata, hmarker, hup, hopen]
  rw [Link.hearCommand_eq, if_pos hup]
  cases f with
  | text text => exact htake (utf8 text) rfl
  | binary data => exact htake data rfl
  | close reason =>
    show Takes l { l with command := .closed } (.say .command (.close reason))
    exact ⟨rfl, by simp [Event.isMarker, Event.data?, Frame.payload?],
      by simp [Event.output, Event.data?, Frame.payload?], by simp [Event.ends, Frame.isClose],
      by simp⟩
  | _ => exact takes_of_alike hup (Alike.refl l) rfl rfl

lemma takes_change (hup : l.command = .up) (e : Event) : Takes l (e.change l) e := by
  cases e with
  | say w f =>
    cases w with
    | status => exact takes_of_alike hup (alike_hearStatus l f) rfl rfl
    | command => exact takes_hearCommand hup f
  | cut w =>
    cases w with
    | status => exact takes_of_alike hup (alike_loseStatus l) rfl rfl
    | command =>
      show Takes l l.loseCommand (.cut .command)
      rw [Link.loseCommand, if_pos hup]
      exact ⟨rfl, by simp [Event.isMarker, Event.data?], by simp [Event.output, Event.data?],
        by simp [Event.ends], by simp⟩
  | _ => exact takes_of_alike hup (Alike.refl l) rfl rfl

lemma settings_change (e : Event) (l : Link) : (e.change l).settings = l.settings := by
  by_cases hup : l.command = .up
  · exact (takes_change hup e).settings
  · exact (alike_change hup e).settings

/-! ## The three stages -/

/-- What a link is told that ended before it was ready. -/
def endedEarly : Client.Error :=
  .connection "command connection closed before the session was ready"

/-- Where a link stands after some events. -/
inductive Stage (start : Network) (name : String) (settings : Settings) (events : List Event)
    (now : Nat) (attempt : Attempt) : Prop where
  /-- It waits for the marker. -/
  | waiting
      (drives : settings.readOnly = false)
      (undecided : attempt.result = none)
      (unready : attempt.link.ready = false)
      (up : attempt.link.command = .up)
      (output : attempt.link.output = saidIn events)
      (early : now < deadline settings)
      (on : events.any Event.ends = false)
      (unmarked : ¬ Timely start name settings Event.isMarker events)
      (unended : ¬ Timely start name settings Event.ends events)
  /-- It can be used. -/
  | usable
      (opened : attempt.result = some (.ok ()))
      (ready : settings.readOnly = true ∨ attempt.link.ready = true ∧
        Timely start name settings Event.isMarker events)
      (output : attempt.link.output = saidIn events)
      (up_iff : attempt.link.command = .up ↔ events.any Event.ends = false)
      (unshut : attempt.link.command ≠ .shut)
  /-- It is given up. -/
  | closed
      (drives : settings.readOnly = false)
      (reason : attempt.result = some (.error endedEarly) ∧
          Timely start name settings Event.ends events ∨
        attempt.result = some (.error (.timeout settings.readyTimeout)) ∧
          ¬ Timely start name settings Event.ends events)
      (shut : attempt.link.command = .shut)
      (late : events.any Event.ends = true ∨ deadline settings ≤ now)
      (unmarked : ¬ Timely start name settings Event.isMarker events)

/-- An attempt that was not decided is, at a time, if the marker came, if the connection has ended
or if it is too late. -/
lemma stage_decided (hsettings : attempt.link.settings = settings)
    (hdeadline : attempt.deadline = deadline settings) (hresult : attempt.result = none)
    (houtput : attempt.link.output = saidIn events)
    (hready : attempt.link.ready = true ↔ Timely start name settings Event.isMarker events)
    (hup : attempt.link.command = .up ↔ events.any Event.ends = false)
    (hshut : attempt.link.command ≠ .shut)
    (hended : events.any Event.ends = true ↔ Timely start name settings Event.ends events) :
    Stage start name settings events now (attempt.decided now) := by
  -- The marker is asked for first, then the connection, and the time only last.
  have hdecided := attempt.decided_eq hresult now
  rw [attempt.outcome_eq hresult, hdeadline, hsettings] at hdecided
  by_cases huse : settings.readOnly = true ∨ attempt.link.ready = true
  · have hopening : attempt.link.opening = some (.ok ()) := by
      rw [Link.opening, hsettings, if_pos (by simpa using huse)]
    rw [hdecided, hopening]
    exact .usable rfl (huse.imp id fun h => ⟨h, hready.1 h⟩) houtput hup hshut
  simp only [not_or, Bool.not_eq_true] at huse
  have hunmarked : ¬ Timely start name settings Event.isMarker events := by
    rw [← hready, huse.2]
    decide
  by_cases hline : attempt.link.command = .up
  · have hon : events.any Event.ends = false := hup.1 hline
    have hunended : ¬ Timely start name settings Event.ends events := by
      rw [← hended, hon]
      decide
    have hopening : attempt.link.opening = none := by
      simp [Link.opening, hsettings, huse, hline]
    by_cases hlate : deadline settings ≤ now
    · rw [hdecided, hopening, if_pos hlate]
      exact .closed huse.1 (Or.inr ⟨rfl, hunended⟩) rfl (Or.inr hlate) hunmarked
    · rw [hdecided, hopening, if_neg hlate]
      exact .waiting huse.1 hresult huse.2 hline houtput (by omega) hon hunmarked hunended
  · have hoff : events.any Event.ends = true := by
      rw [← Bool.not_eq_false, ← hup]
      exact hline
    have hopening : attempt.link.opening = some (.error endedEarly) := by
      simp [Link.opening, hsettings, huse, hline, endedEarly]
    rw [hdecided, hopening]
    exact .closed huse.1 (Or.inl ⟨rfl, hended.1 hoff⟩) rfl (Or.inl hoff) hunmarked

/-- Whatever happens leads from stage to stage. -/
lemma Stage.step (h : Stage start name settings events now attempt)
    (hclock : (start.play name events).clock = now)
    (hsettings : attempt.link.settings = settings)
    (hdeadline : attempt.deadline = deadline settings) (e : Event) {later : Nat}
    (hlater : now ≤ later) :
    Stage start name settings (events ++ [e]) later
      (({ attempt with link := e.change attempt.link } : Attempt).decided later) := by
  have hany : (events ++ [e]).any Event.ends = (events.any Event.ends || e.ends) := by simp
  cases h with
  | waiting drives undecided unready up output early on unmarked unended =>
    obtain ⟨htsettings, htready, htoutput, htup, htopen⟩ := takes_change up e
    have hmarked := timely_concat_of_early (e := e) hclock unmarked on early
    have hended := timely_concat_of_early (e := e) hclock unended on early
    refine stage_decided (htsettings.trans hsettings) hdeadline undecided ?_ ?_ ?_ htopen ?_
    · rw [htoutput, output, saidIn_concat, on]
      rfl
    · rw [htready, unready, hmarked, Bool.false_or]
    · rw [htup, hany, on, Bool.false_or]
    · rw [hany, on, Bool.false_or, hended]
  | usable opened ready output up_iff unshut =>
    rw [Attempt.decided_of_isSome (by simp [opened])]
    have hmarked : Timely start name settings Event.isMarker events →
        Timely start name settings Event.isMarker (events ++ [e]) :=
      fun hm => timely_concat.2 (Or.inl hm)
    -- A connection that has ended stays so, and nothing more is said on it.
    by_cases hup : attempt.link.command = .up
    · have hon := up_iff.1 hup
      obtain ⟨-, htready, htoutput, htup, htopen⟩ := takes_change hup e
      refine .usable opened (ready.imp id fun hr => ⟨?_, hmarked hr.2⟩) ?_ ?_ htopen
      · rw [htready, hr.1, Bool.true_or]
      · rw [htoutput, output, saidIn_concat, hon]
        rfl
      · rw [htup, hany, hon, Bool.false_or]
    · have hoff : events.any Event.ends = true := by
        rw [← Bool.not_eq_false, ← up_iff]
        exact hup
      obtain ⟨-, hcommand, hready, houtput⟩ := alike_change hup e
      refine .usable opened (ready.imp id fun hr => ⟨hready.trans hr.1, hmarked hr.2⟩) ?_ ?_ ?_
      · rw [houtput, output, saidIn_concat, hoff, if_pos rfl, List.append_nil]
      · rw [hcommand, hany, hoff]
        simp [hup]
      · rw [hcommand]
        exact unshut
  | closed drives reason shut late unmarked =>
    have hmarked := timely_concat_of_late (e := e) (p := Event.isMarker) hclock late
    have hended := timely_concat_of_late (e := e) (p := Event.ends) hclock late
    have hsome : ({ attempt with link := e.change attempt.link } : Attempt).result.isSome =
        true := by
      rcases reason with ⟨hr, -⟩ | ⟨hr, -⟩ <;> simp [hr]
    rw [Attempt.decided_of_isSome hsome]
    obtain ⟨-, hcommand, -, -⟩ := alike_change (by rw [shut]; decide) e
    refine .closed drives ?_ (hcommand.trans shut) ?_ (by rwa [hmarked])
    · rw [hended]
      exact reason
    · rw [hany]
      rcases late with hoff | hlate
      · exact Or.inl (by rw [hoff, Bool.true_or])
      · exact Or.inr (by omega)

/-- Whoever waits for a link that waits finds it given up when time is up. -/
lemma Stage.await (h : Stage start name settings events now attempt)
    (hsettings : attempt.link.settings = settings)
    (hdeadline : attempt.deadline = deadline settings) :
    let later := if attempt.result.isSome then now else max now attempt.deadline
    Stage start name settings events later { attempt.decided later with held := true } ∧
      (attempt.decided later).result.isSome = true := by
  intro later
  cases h with
  | waiting drives undecided unready up output early on unmarked unended =>
    have hlater : later = deadline settings := by
      simp only [later, undecided, hdeadline]
      exact Nat.max_eq_right (Nat.le_of_lt early)
    -- Nothing was said in the meantime, so that only the deadline can have decided.
    have hdecided : Stage start name settings events later (attempt.decided later) :=
      stage_decided hsettings hdeadline undecided output (by simp [unready, unmarked])
        (by simp [up, on]) (by simp [up]) (by simp [on, unended])
    cases hdecided with
    | waiting _ _ _ _ _ hearly => omega
    | usable opened ready output up_iff unshut =>
      exact ⟨.usable opened ready output up_iff unshut, by simp [opened]⟩
    | closed drives reason shut late unmarked =>
      refine ⟨.closed drives reason shut late unmarked, ?_⟩
      rcases reason with ⟨hr, -⟩ | ⟨hr, -⟩ <;> simp [hr]
  | usable opened ready output up_iff unshut =>
    have hsome : attempt.result.isSome = true := by simp [opened]
    simp only [later, if_pos hsome, Attempt.decided_of_isSome hsome]
    exact ⟨.usable opened ready output up_iff unshut, hsome⟩
  | closed drives reason shut late unmarked =>
    have hsome : attempt.result.isSome = true := by
      rcases reason with ⟨hr, -⟩ | ⟨hr, -⟩ <;> simp [hr]
    simp only [later, if_pos hsome, Attempt.decided_of_isSome hsome]
    exact ⟨.closed drives reason shut late unmarked, hsome⟩

/-- Nothing is said while the owner waits. -/
lemma Stage.await_concat (h : Stage start name settings events now attempt) :
    Stage start name settings (events ++ [.await]) now attempt := by
  have htimely : ∀ {p : Event → Bool}, p .await = false →
      (Timely start name settings p (events ++ [.await]) ↔
        Timely start name settings p events) := by
    intro p hp
    rw [timely_concat, hp]
    simp
  have hmarked := htimely (p := Event.isMarker) rfl
  have hended := htimely (p := Event.ends) rfl
  have hany : (events ++ [Event.await]).any Event.ends = events.any Event.ends := by
    simp [Event.ends]
  have hsaid : saidIn (events ++ [Event.await]) = saidIn events := by
    simp [saidIn_concat, Event.output, Event.data?]
  cases h with
  | waiting drives undecided unready up output early on unmarked unended =>
    exact .waiting drives undecided unready up (hsaid ▸ output) early (hany ▸ on)
      (hmarked.not.2 unmarked) (hended.not.2 unended)
  | usable opened ready output up_iff unshut =>
    exact .usable opened (ready.imp id fun hr => ⟨hr.1, hmarked.2 hr.2⟩) (hsaid ▸ output)
      (hany ▸ up_iff) unshut
  | closed drives reason shut late unmarked =>
    exact .closed drives (reason.imp (And.imp id hended.2) (And.imp id hended.not.2)) shut
      (hany ▸ late) (hmarked.not.2 unmarked)

end SharedTerminal.Network
