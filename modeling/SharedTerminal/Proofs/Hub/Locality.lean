import SharedTerminal.Proofs.Hub.Belonging

/-!
# What stays within a context

Most of what happens in a hub is done in the name of a session.  It is local (`IsLocal`) if it does
to what belongs to the context of the session what it does to the whole, and nothing to what belongs
to another context.  What is local one after the other is local (`IsLocal.bind`), so that only the
single steps have to be looked into: an operation of the session with the register's part in it, a
new engine, and a write to the log file.

The main statement is `isLocal_act`: whatever is done to a session is local.
-/

namespace SharedTerminal.Hub

open Session (Answer Attachment)

variable {hub : Hub} {c : String} {n : Nat}

attribute [ext] Hub

/-! ## An operation on a session -/

lemma IsSound.homes_on (h : hub.IsSound) (n : Nat) (op : Session.Operation) :
    (hub.step (.on n op)).homes = hub.homes := by
  rw [homes, homes, sessions_on, List.map_set, (h.sessions n).context_step]
  refine List.ext_getElem? fun i => ?_
  rw [List.getElem?_set]
  split
  · next hi =>
    subst hi
    split
    · next hlt => rw [← getElem?_homes (by simpa using hlt)]; rfl
    · next hlt => rw [List.getElem?_eq_none (by simpa using hlt)]
  · rfl

lemma IsSound.context_session_on (h : hub.IsSound) (n m : Nat) (op : Session.Operation) :
    ((hub.step (.on n op)).session m).context = (hub.session m).context := by
  rw [context_session, context_session, h.homes_on]

lemma IsSound.handle_on (h : hub.IsSound) (n m : Nat) (op : Session.Operation) :
    (hub.step (.on n op)).handle m = hub.handle m := by
  simp only [handle, h.homes_on, h.context_session_on]

/-- Entries of a context that are not that of a given session, by number or by place. -/
lemma IsSound.filter_entries_only (h : hub.IsSound) (hn : n < hub.sessions.length)
    (hc : (hub.session n).context = c) :
    ((hub.entries.filter (· ≠ (c, n))).filter fun entry => entry.1 = c).map
        (fun entry => (entry.1, (hub.handle entry.2).place)) =
      (hub.only c).entries.filter (· ≠ (c, (hub.handle n).place)) := by
  simp only [only, List.filter_map, List.filter_filter]
  refine congrArg (List.map _) (List.filter_congr ?_)
  rintro ⟨key, m⟩ hmem
  by_cases hkey : key = c
  · subst hkey
    have hplace : (hub.handle m).place = (hub.handle n).place ↔ m = n :=
      ⟨place_inj (h.bound key m hmem) hn (h.own key m hmem) hc, fun heq => by rw [heq]⟩
    simp [hplace]
  · simp [hkey]

/-- An operation on a session of the context is one on what belongs to it, -/
lemma IsWired.only_on (h : hub.IsWired) (hn : n < hub.sessions.length)
    (hc : (hub.session n).context = c) (op : Session.Operation) :
    (hub.step (.on n op)).only c = (hub.only c).step (.on (hub.handle n).place op) := by
  have hsame := (h.sessions n).context_step op
  have hsession := session_only hn hc
  ext1
  · rw [sessions_on, hsession, only, sessions_on, filter_set (getElem?_sessions hn) hsame,
      if_pos hc, place_handle hc]
    rfl
  · rw [entries_on, hsession, hsame, hc, only, entries_on, hsame, hc]
    simp only [h.handle_on]
    split
    · exact h.filter_entries_only hn hc
    · rfl
  · rw [processes_on]
    simp only [only, processes_on, h.handle_on, h.context_session_on]
  · rw [files_on]
    simp only [only, files_on]

/-- and one on another session is none. -/
lemma IsWired.only_on_of_ne (h : hub.IsWired) (hn : n < hub.sessions.length)
    (hc : (hub.session n).context ≠ c) (op : Session.Operation) :
    (hub.step (.on n op)).only c = hub.only c := by
  have hsame := (h.sessions n).context_step op
  ext1
  · rw [only, sessions_on, filter_set (getElem?_sessions hn) hsame, if_neg hc]
    rfl
  · simp only [only, entries_on, hsame, h.handle_on]
    split
    · -- What may have left the register is an entry of the other context.
      refine congrArg (List.map _) ?_
      rw [List.filter_filter]
      refine List.filter_congr ?_
      rintro ⟨key, m⟩ -
      by_cases hkey : key = c
      · simp [hkey, Ne.symm hc]
      · simp [hkey]
    · rfl
  · simp only [only, processes_on, h.handle_on, h.context_session_on]
  · simp only [only, files_on]

lemma IsWired.on (h : hub.IsWired) (n : Nat) (op : Session.Operation) :
    (hub.step (.on n op)).IsWired where
  toIsSound := h.toIsSound.on n op
  started m hm := by
    rw [processes_on] at hm
    rw [length_on]
    exact h.started m hm

/-! ## Log files -/

lemma only_touch (hub : Hub) (c : String) : (hub.touch c).only c = (hub.only c).touch c := by
  simp only [touch, lookup_only_files]
  split
  · rfl
  · simp [only, handle, session, homes]

lemma only_touch_of_ne (hub : Hub) {d : String} (hd : d ≠ c) :
    (hub.touch d).only c = hub.only c := by
  have hname : Session.LogFile.name d ≠ Session.LogFile.name c :=
    Session.LogFile.name_injective.ne hd
  simp only [touch]
  split
  · rfl
  · simp [only, handle, session, homes, hname]

lemma fst_appended (name : String) (bytes : Bytes) (file : String × Bytes) :
    (if file.1 = name then (name, file.2 ++ bytes) else file).1 = file.1 := by
  split
  · next h => exact h.symm
  · rfl

lemma only_appendLog (hub : Hub) (c : String) (bytes : Bytes) :
    (hub.appendLog c bytes).only c = (hub.only c).appendLog c bytes := by
  ext1
  · rfl
  · rfl
  · rfl
  · simp only [only, appendLog, List.filter_map, Function.comp_def, fst_appended]

lemma only_appendLog_of_ne (hub : Hub) {d : String} (hd : d ≠ c) (bytes : Bytes) :
    (hub.appendLog d bytes).only c = hub.only c := by
  have hname : Session.LogFile.name c ≠ Session.LogFile.name d :=
    Session.LogFile.name_injective.ne hd.symm
  ext1
  · rfl
  · rfl
  · rfl
  · simp only [only, appendLog, List.filter_map, Function.comp_def, fst_appended]
    refine (List.map_congr_left fun file hfile => ?_).trans (List.map_id _)
    have hown : file.1 = Session.LogFile.name c := by simpa using (List.mem_filter.1 hfile).2
    rw [if_neg (by rw [hown]; exact hname)]
    rfl

/-! ## What is done in the name of a session -/

/-- The next state of a wired hub in which the sessions are at home where they were. -/
structure Follows (hub next : Hub) : Prop where
  /-- It is wired. -/
  wired : next.IsWired
  /-- The sessions are at home where they were. -/
  homes : next.homes = hub.homes

namespace Follows

variable {next last : Hub}

lemma trans (h : hub.Follows next) (h' : next.Follows last) : hub.Follows last :=
  ⟨h'.wired, h'.homes.trans h.homes⟩

lemma context (h : hub.Follows next) (n : Nat) :
    (next.session n).context = (hub.session n).context := by
  rw [context_session, context_session, h.homes]

lemma handle (h : hub.Follows next) (n : Nat) : next.handle n = hub.handle n := by
  simp only [Hub.handle, context_session, h.homes]

lemma length (h : hub.Follows next) : next.sessions.length = hub.sessions.length := by
  simpa [Hub.homes] using congrArg List.length h.homes

end Follows

/-- Something that is done in the name of a session stays within its context. -/
structure IsLocal {α : Type} (f : Hub → Nat → Hub × α) : Prop where
  /-- The hub goes on. -/
  follows : ∀ (hub : Hub) (n : Nat), hub.IsWired → n < hub.sessions.length →
    hub.Follows (f hub n).1
  /-- The same is done to what belongs to the context, with the same outcome. -/
  own : ∀ (hub : Hub) (n : Nat), hub.IsWired → n < hub.sessions.length →
    (f hub n).map (·.only (hub.session n).context) id =
      f (hub.only (hub.session n).context) (hub.handle n).place
  /-- Nothing is done to what belongs to another context. -/
  other : ∀ (hub : Hub) (n : Nat) (c : String), hub.IsWired → n < hub.sessions.length →
    (hub.session n).context ≠ c → (f hub n).1.only c = hub.only c

namespace IsLocal

variable {α β : Type} {f g : Hub → Nat → Hub × α}

lemma length_only (hn : n < hub.sessions.length) :
    (hub.handle n).place < (hub.only (hub.session n).context).sessions.length :=
  (List.getElem?_eq_some_iff.1 (getElem?_sessions_only hn rfl)).1

lemma congr (hg : IsLocal g) (h : ∀ hub n, n < hub.sessions.length → f hub n = g hub n) :
    IsLocal f where
  follows hub n hw hn := by
    rw [h hub n hn]
    exact hg.follows hub n hw hn
  own hub n hw hn := by
    rw [h hub n hn, h _ _ (length_only hn)]
    exact hg.own hub n hw hn
  other hub n c hw hn hc := by
    rw [h hub n hn]
    exact hg.other hub n c hw hn hc

/-- To look at the session is local. -/
lemma ask (q : Session → α) : IsLocal fun hub n => (hub, q (hub.session n)) where
  follows hub n hw hn := ⟨hw, rfl⟩
  own hub n hw hn := by rw [session_only hn rfl]; rfl
  other hub n c hw hn hc := rfl

/-- One thing after the other is local if both are. -/
lemma bind {k : α → Hub → Nat → Hub × β} (hf : IsLocal f) (hk : ∀ a, IsLocal (k a)) :
    IsLocal fun hub n => k (f hub n).2 (f hub n).1 n where
  follows hub n hw hn := by
    have hnext := hf.follows hub n hw hn
    exact hnext.trans ((hk _).follows _ n hnext.wired (by rwa [hnext.length]))
  own hub n hw hn := by
    have hnext := hf.follows hub n hw hn
    have hlater := (hk (f hub n).2).own (f hub n).1 n hnext.wired (by rwa [hnext.length])
    rw [hnext.context, hnext.handle] at hlater
    rw [hlater, ← hf.own hub n hw hn]
    rfl
  other hub n c hw hn hc := by
    have hnext := hf.follows hub n hw hn
    rw [(hk _).other _ n c hnext.wired (by rwa [hnext.length]) (by rwa [hnext.context]),
      hf.other hub n c hw hn hc]

/-- What a session does is local if it is one of its operations. -/
lemma run {q : Session → Session × α} (op : Session → Session.Operation)
    (hq : ∀ s, (q s).1 = s.step (op s)) : IsLocal fun hub n => hub.run n q := by
  have hrun : ∀ (hub : Hub) n,
      hub.run n q = (hub.step (.on n (op (hub.session n))), (q (hub.session n)).2) := by
    intro hub n
    change (hub.put n (q (hub.session n)).1, _) = _
    rw [hq]
    rfl
  refine ⟨fun hub n hw hn => ?_, fun hub n hw hn => ?_, fun hub n c hw hn hc => ?_⟩
  · rw [hrun]
    exact ⟨hw.on n _, hw.homes_on n _⟩
  · rw [hrun, hrun, session_only hn rfl, Prod.map_apply, hw.only_on hn rfl]
    rfl
  · rw [hrun]
    exact hw.only_on_of_ne hn hc _

end IsLocal

/-! ### Events -/

/-- A session takes events. -/
def hear (hub : Hub) (n : Nat) (events : List Engine.Event) : Hub :=
  events.foldl (fun hub event => hub.modify n (·.handle event)) hub

lemma isLocal_modify_handle (event : Engine.Event) :
    IsLocal fun hub n => (hub.modify n (·.handle event), ()) :=
  have hstep : ∀ s : Session, (s.handle event, ()).1 = s.step (.ofEvent s.context event) :=
    fun s => s.handle_eq_step event
  .run (fun s => .ofEvent s.context event) hstep

lemma isLocal_hear (events : List Engine.Event) :
    IsLocal fun hub n => (hub.hear n events, ()) := by
  induction events with
  | nil => exact .ask fun _ => ()
  | cons event events ih => exact (isLocal_modify_handle event).bind fun _ => ih

/-! ### Log files -/

lemma IsWired.follows_files (h : hub.IsWired) (files : List (String × Bytes)) :
    hub.Follows { hub with files := files } :=
  ⟨⟨⟨h.sessions, h.keys, h.bound, h.own, h.live⟩, h.started⟩, rfl⟩

lemma isLocal_touch :
    IsLocal fun hub n => (hub.touch (hub.session n).context, ()) where
  follows hub n hw hn := by
    simp only [touch]
    split
    · exact ⟨hw, rfl⟩
    · exact hw.follows_files _
  own hub n hw hn := by
    rw [session_only hn rfl, ← only_touch]
    rfl
  other hub n c hw hn hc := only_touch_of_ne hub hc

lemma isLocal_appendLog (bytes : Bytes) :
    IsLocal fun hub n => (hub.appendLog (hub.session n).context bytes, ()) where
  follows hub n hw hn := hw.follows_files _
  own hub n hw hn := by
    rw [session_only hn rfl, ← only_appendLog]
    rfl
  other hub n c hw hn hc := only_appendLog_of_ne hub hc bytes

lemma isLocal_flushLog :
    IsLocal fun hub n => (hub.flushLog n, (hub.session n).flushLog.2) := by
  have htake : IsLocal fun hub n => hub.run n Session.flushLog :=
    .run (fun _ => .flushLog) fun _ => rfl
  refine (htake.bind fun bytes =>
    (isLocal_appendLog bytes).bind fun _ => .ask fun _ => bytes).congr fun hub n hn => ?_
  have hsession := session_on hn .flushLog
  change _ = ((hub.step (.on n .flushLog)).appendLog
    ((hub.step (.on n .flushLog)).session n).context (hub.session n).flushLog.2, _)
  rw [hsession]
  rfl

/-! ### Engines -/

/-- The hub with one more engine, which a session has started. -/
def enlist (hub : Hub) (n : Nat) : Hub := { hub with processes := hub.processes ++ [n] }

lemma isLocal_enlist : IsLocal fun hub n => (hub.enlist n, ()) where
  follows hub n hw hn := by
    refine ⟨⟨⟨hw.sessions, hw.keys, hw.bound, hw.own, hw.live⟩, fun m hm => ?_⟩, rfl⟩
    rcases List.mem_append.1 hm with hm | hm
    · exact hw.started m hm
    · obtain rfl := List.mem_singleton.1 hm
      exact hn
  own hub n hw hn := by
    have hself : decide (((hub.enlist n).session n).context = (hub.session n).context) = true :=
      decide_eq_true rfl
    refine Prod.ext (Hub.ext rfl rfl ?_ rfl) rfl
    change List.map _ (List.filter _ (hub.processes ++ [n])) = _ ++ _
    rw [List.filter_append, List.map_append, List.filter_singleton, hself]
    rfl
  other hub n c hw hn hc := by
    have hself : decide (((hub.enlist n).session n).context = c) = false := decide_eq_false hc
    refine Hub.ext rfl rfl ?_ rfl
    change List.map _ (List.filter _ (hub.processes ++ [n])) = _
    rw [List.filter_append, List.map_append, List.filter_singleton, hself]
    exact List.append_nil _

lemma isLocal_enroll (settings : Settings) :
    IsLocal fun hub n => (hub.enroll settings n, ()) := by
  have hfile : IsLocal fun hub n =>
      (if settings.logCapacity.isSome then hub.touch (hub.session n).context else hub, ()) := by
    cases settings.logCapacity with
    | none => exact .ask fun _ => ()
    | some capacity => exact isLocal_touch
  have hlisted := isLocal_enlist.bind fun _ => hfile
  rcases hstart : settings.start with e | events
  · refine hlisted.congr fun hub n _ => ?_
    rw [enroll, hstart]
    rfl
  · refine (hlisted.bind fun _ => isLocal_hear events).congr fun hub n _ => ?_
    rw [enroll, hstart]
    rfl

lemma isLocal_attachDriver (settings : Settings) (channel : Session.Channel) :
    IsLocal fun hub n => hub.attachDriver settings n channel := by
  -- What the session does, and whether it starts an engine.
  have hattach : IsLocal fun hub n => hub.run n fun s =>
      let result := s.attachDriver channel settings.startup
      (result.1, s.process.isNone && result.1.process.isSome, result.2) :=
    .run (fun _ => .attachDriver channel settings.startup) fun _ => rfl
  have henroll : ∀ result : Bool × Except Session.Error Attachment,
      IsLocal fun hub n => if result.1 then (hub.enroll settings n, result.2)
        else (hub, result.2) := by
    rintro ⟨_ | _, outcome⟩
    · exact .ask fun _ => outcome
    · exact (isLocal_enroll settings).bind fun _ => .ask fun _ => outcome
  exact hattach.bind henroll

lemma isLocal_takeCommands :
    IsLocal fun hub n =>
      let (next, commands) := hub.run n Session.takeCommands
      (next, commands.map fun cs => ((next.session n).context, cs)) :=
  have htake : IsLocal fun hub n => hub.run n Session.takeCommands :=
    .run (fun _ => .takeCommands) fun _ => rfl
  htake.bind fun commands => .ask fun s => commands.map fun cs => (s.context, cs)

lemma isLocal_dropProcess : IsLocal fun hub n => hub.run n Session.dropProcess :=
  .run (fun _ => .dropProcess) fun _ => rfl

lemma isLocal_perform (op : Session.Operation) :
    IsLocal fun hub n => hub.run n (·.perform op) :=
  .run (fun _ => op) fun _ => rfl

/-- Whatever is done to a session is local. -/
lemma isLocal_act (settings : Settings) (op : Session.Operation) :
    IsLocal fun hub n => hub.act settings n op := by
  rcases act_cases op with ⟨channel, startup, rfl⟩ | rfl | hrun
  · exact (isLocal_attachDriver settings channel).bind fun outcome =>
      .ask fun _ => Answer.attached outcome
  · exact isLocal_flushLog.bind fun bytes => .ask fun _ => Answer.logged bytes
  · exact (isLocal_perform op).congr fun hub n _ => hrun hub settings n

end SharedTerminal.Hub
