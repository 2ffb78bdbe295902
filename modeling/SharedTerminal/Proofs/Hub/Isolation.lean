import SharedTerminal.Proofs.Hub.Locality

/-!
# Contexts are isolated

A call is for one context.  It does to what belongs to that context what it does to the whole hub,
with the same reply, and nothing to what belongs to another (`IsWithin`, `isWithin_serve`).  For
most calls that follows from what is local to a session; a new session and a removal from the
register are looked at on their own.

So calls for one context get the replies and lead to what they would without any other context.
This is the main statement, `serveAll_isolated`.
-/

namespace SharedTerminal.Hub

variable {hub : Hub} {c : String} {n : Nat}

/-! ## Calls -/

/-- Something that is done for a context leaves all others alone. -/
structure IsWithin {α : Type} (c : String) (f : Hub → Hub × α) : Prop where
  /-- The hub stays wired. -/
  wired : ∀ hub : Hub, hub.IsWired → (f hub).1.IsWired
  /-- The same is done to what belongs to the context, with the same outcome. -/
  own : ∀ hub : Hub, hub.IsWired → (f hub).map (·.only c) id = f (hub.only c)
  /-- Nothing is done to what belongs to another context. -/
  other : ∀ (hub : Hub) (d : String), hub.IsWired → c ≠ d → (f hub).1.only d = hub.only d

section Within

variable {α : Type} {f : Hub → Nat → Hub × α}

/-- What is local to a session is so if the session is given by its handle. -/
lemma IsLocal.within (hf : IsLocal f) (who : Handle) (unknown : α) :
    IsWithin who.context fun hub =>
      match hub.number? who with
      | some n => f hub n
      | none => (hub, unknown) where
  wired hub hw := by
    rcases hn : hub.number? who with _ | n
    · exact hw
    · exact (hf.follows hub n hw ((number?_eq_some_iff who).1 hn).1).wired
  own hub hw := by
    rw [number?_only rfl]
    rcases hn : hub.number? who with _ | n
    · rfl
    · obtain ⟨hlt, hwho⟩ := (number?_eq_some_iff who).1 hn
      have hown := hf.own hub n hw hlt
      rwa [show (hub.session n).context = who.context from congrArg Handle.context hwho] at hown
  other hub d hw hd := by
    rcases hn : hub.number? who with _ | n
    · rfl
    · obtain ⟨hlt, hwho⟩ := (number?_eq_some_iff who).1 hn
      refine hf.other hub n d hw hlt ?_
      rwa [show (hub.session n).context = who.context from congrArg Handle.context hwho]

/-- Likewise what is done to an engine, if it comes down to that for one that runs, and to nothing
for one that has stopped. -/
lemma IsLocal.within_engine {g : Hub → Nat → Hub × α} (hf : IsLocal f) (engine : Handle)
    (idle unknown : α)
    (hruns : ∀ (hub : Hub) (p n : Nat), hub.running? p = some n → g hub p = f hub n)
    (hidle : ∀ (hub : Hub) (p : Nat), hub.running? p = none → g hub p = (hub, idle)) :
    IsWithin engine.context fun hub =>
      match hub.engine? engine with
      | some p => g hub p
      | none => (hub, unknown) := by
  -- What is done depends only on whether the handle is known, and on who runs the engine.
  have hcases : ∀ hub : Hub,
      (match hub.engine? engine with
        | some p => g hub p
        | none => (hub, unknown)) =
      match (hub.engine? engine).map hub.running? with
        | some (some n) => f hub n
        | some none => (hub, idle)
        | none => (hub, unknown) := by
    intro hub
    rcases hub.engine? engine with _ | p
    · rfl
    · rcases hn : hub.running? p with _ | n
      · simp only [Option.map_some, hn, hidle hub p hn]
      · simp only [Option.map_some, hn, hruns hub p n hn]
  simp only [hcases]
  refine ⟨fun hub hw => ?_, fun hub hw => ?_, fun hub d hw hd => ?_⟩
  · rcases hn : (hub.engine? engine).map hub.running? with _ | _ | n
    · exact hw
    · exact hw
    · exact (hf.follows hub n hw (hw.of_running hn).1).wired
  · rw [hw.engine?_only rfl]
    rcases hn : (hub.engine? engine).map hub.running? with _ | _ | n
    · rfl
    · rfl
    · obtain ⟨hlt, hc⟩ := hw.of_running hn
      have hown := hf.own hub n hw hlt
      rwa [hc] at hown
  · rcases hn : (hub.engine? engine).map hub.running? with _ | _ | n
    · rfl
    · rfl
    · obtain ⟨hlt, hc⟩ := hw.of_running hn
      exact hf.other hub n d hw hlt (by rwa [hc])

end Within

/-- A question is within the context if the answer depends on nothing else. -/
lemma IsWithin.ask {α : Type} {q : Hub → α}
    (hq : ∀ hub : Hub, hub.IsWired → q (hub.only c) = q hub) :
    IsWithin c fun hub => (hub, q hub) where
  wired hub hw := hw
  own hub hw := by rw [hq hub hw]; rfl
  other hub d hw hd := rfl

/-! ### A new session -/

/-- The hub with a new session of a context, which takes the place on the register. -/
def establish (hub : Hub) (c : String) : Hub :=
  { hub with
    sessions := hub.sessions ++ [.fresh c]
    entries := hub.entries.filter (·.1 ≠ c) ++ [(c, hub.sessions.length)] }

lemma findOrCreate_of_none (hnone : hub.find? c = none) :
    hub.findOrCreate c = (hub.establish c, hub.sessions.length) := by
  simp [findOrCreate, hnone, create, establish]

lemma session_establish (hn : n < hub.sessions.length) (d : String) :
    (hub.establish d).session n = hub.session n := by
  rw [establish, session_append, if_neg (by omega)]

lemma homes_establish (hub : Hub) (d : String) : (hub.establish d).homes = hub.homes ++ [d] := by
  simp [homes, establish, Session.fresh]

lemma handle_establish (hn : n < hub.sessions.length) (d : String) :
    (hub.establish d).handle n = hub.handle n := by
  have hle : n ≤ hub.homes.length := by
    rw [homes, List.length_map]
    omega
  simp only [handle, session_establish hn, homes_establish, List.countBefore_eq_count_take,
    List.take_append_of_le_length hle]

/-- The new session is the last one of its context. -/
lemma handle_establish_length (hub : Hub) (c : String) :
    (hub.establish c).handle hub.sessions.length = ⟨c, (hub.only c).sessions.length⟩ := by
  have hlength : hub.homes.length = hub.sessions.length := List.length_map _
  have honly : (hub.only c).sessions.length = hub.homes.count c := by
    rw [← List.length_replicate (n := hub.homes.count c) (a := c), ← homes_only, homes,
      List.length_map]
  have hsession : ((hub.establish c).session hub.sessions.length).context = c := by
    rw [establish, session_append, if_pos rfl]
    rfl
  simp only [handle, hsession, homes_establish, List.countBefore_eq_count_take, honly]
  rw [← hlength, List.take_left]

lemma IsWired.establish (h : hub.IsWired) (hnone : hub.find? c = none) :
    (hub.establish c).IsWired where
  toIsSound := by
    have hsound := h.toIsSound.findOrCreate c
    rwa [findOrCreate_of_none hnone] at hsound
  started n hn := by
    have hlt := h.started n hn
    simp only [Hub.establish, List.length_append]
    omega

/-- The engines of a context in a hub with one more session. -/
lemma IsWired.processes_only_establish (h : hub.IsWired) (c d : String) :
    ((hub.establish d).only c).processes = (hub.only c).processes := by
  change List.map _ (List.filter _ hub.processes) = List.map _ (List.filter _ hub.processes)
  have hfilter : (hub.processes.filter fun n => ((hub.establish d).session n).context = c) =
      hub.processes.filter fun n => (hub.session n).context = c :=
    List.filter_congr fun n hn => by rw [session_establish (h.started n hn)]
  rw [hfilter]
  refine List.map_congr_left fun n hn => ?_
  rw [handle_establish (h.started n (List.mem_filter.1 hn).1)]

lemma IsWired.only_establish (h : hub.IsWired) (c : String) :
    (hub.establish c).only c = (hub.only c).establish c := by
  ext1
  · simp [only, Hub.establish, Session.fresh]
  · have hothers : (hub.entries.filter (·.1 ≠ c)).filter (fun entry => entry.1 = c) = [] := by
      simp [List.filter_filter]
    have hown : (hub.only c).entries.filter (·.1 ≠ c) = [] := by
      rw [List.filter_eq_nil_iff]
      intro entry hentry
      obtain ⟨old, hold, rfl⟩ := List.mem_map.1 hentry
      simpa using (List.mem_filter.1 hold).2
    have hnew : ((c, hub.sessions.length) :: []).filter (fun entry => entry.1 = c) =
        [(c, hub.sessions.length)] := by simp
    change List.map _ (List.filter _ (_ ++ [(c, hub.sessions.length)])) =
      (hub.only c).entries.filter (·.1 ≠ c) ++ [(c, (hub.only c).sessions.length)]
    rw [List.filter_append, hothers, hnew, hown, List.nil_append, List.map_singleton,
      handle_establish_length]
    rfl
  · exact h.processes_only_establish c c
  · rfl

lemma IsWired.only_establish_of_ne (h : hub.IsWired) {d : String} (hd : d ≠ c) :
    (hub.establish d).only c = hub.only c := by
  ext1
  · simp [only, Hub.establish, Session.fresh, hd]
  · have hothers : (hub.entries.filter (·.1 ≠ d)).filter (fun entry => entry.1 = c) =
        hub.entries.filter fun entry => entry.1 = c := by
      rw [List.filter_filter]
      refine List.filter_congr fun entry _ => ?_
      by_cases hkey : entry.1 = c
      · simp [hkey, Ne.symm hd]
      · simp [hkey]
    have hnew : ((d, hub.sessions.length) :: []).filter (fun entry => entry.1 = c) = [] := by
      simp [hd]
    change List.map _ (List.filter _ (_ ++ [(d, hub.sessions.length)])) =
      List.map _ (List.filter _ hub.entries)
    rw [List.filter_append, hothers, hnew, List.append_nil]
    refine List.map_congr_left fun entry hentry => ?_
    rw [handle_establish (h.bound entry.1 entry.2 (List.mem_filter.1 hentry).1)]
  · exact h.processes_only_establish c d
  · rfl

lemma sessions_only_only (hub : Hub) (c : String) :
    ((hub.only c).only c).sessions = (hub.only c).sessions := by
  simp [only]

lemma isWithin_findOrCreate (settings : String → Settings) (c : String) :
    IsWithin c fun hub => hub.serve settings (.findOrCreate c) where
  wired hub hw := by
    rcases hn : hub.find? c with _ | n
    · simp only [serve, findOrCreate_of_none hn]
      exact hw.establish hn
    · simp only [serve, findOrCreate_of_some hn]
      exact hw
  own hub hw := by
    have honly := hw.find?_only c
    rcases hn : hub.find? c with _ | n
    · rw [hn, Option.map_none] at honly
      simp only [serve, findOrCreate_of_none hn, findOrCreate_of_none honly, Prod.map_apply, id_eq,
        hw.only_establish, handle_establish_length, sessions_only_only]
    · rw [hn, Option.map_some] at honly
      have hmem := (hw.find?_eq_some_iff c n).1 hn
      simp only [serve, findOrCreate_of_some hn, findOrCreate_of_some honly, Prod.map_apply, id_eq,
        handle_only (hw.bound c n hmem) (hw.own c n hmem)]
  other hub d hw hd := by
    rcases hn : hub.find? c with _ | n
    · simp only [serve, findOrCreate_of_none hn]
      exact hw.only_establish_of_ne hd
    · simp only [serve, findOrCreate_of_some hn]

/-! ### Removal by hand -/

lemma IsSound.contains_entries_only (h : hub.IsSound) (hn : n < hub.sessions.length)
    (hc : (hub.session n).context = c) :
    (hub.only c).entries.contains (c, (hub.handle n).place) = hub.entries.contains (c, n) := by
  rw [Bool.eq_iff_iff, List.contains_iff_mem, List.contains_iff_mem]
  constructor
  · intro hmem
    obtain ⟨⟨key, m⟩, hm, heq⟩ := List.mem_map.1 hmem
    obtain ⟨hold, hkey⟩ := List.mem_filter.1 hm
    obtain rfl : key = c := by simpa using hkey
    obtain rfl : m = n := place_inj (h.bound key m hold) hn (h.own key m hold) hc
      (Prod.mk.inj heq).2
    exact hold
  · intro hmem
    refine List.mem_map.2 ⟨(c, n), List.mem_filter.2 ⟨hmem, by simp⟩, rfl⟩

/-- To take a session off the register under its own context is local. -/
lemma isLocal_remove : IsLocal fun hub n => hub.remove (hub.session n).context n where
  follows hub n hw hn :=
    ⟨⟨hw.toIsSound.remove (hub.session n).context n, hw.started⟩, rfl⟩
  own hub n hw hn := by
    have hentries := hw.filter_entries_only hn rfl
    rw [session_only hn rfl]
    exact Prod.ext (Hub.ext rfl hentries rfl rfl) (hw.contains_entries_only hn rfl).symm
  other hub n c hw hn hc := by
    refine Hub.ext rfl (congrArg (List.map _) ?_) rfl rfl
    change (hub.entries.filter _).filter _ = hub.entries.filter _
    rw [List.filter_filter]
    refine List.filter_congr fun entry _ => ?_
    by_cases hkey : entry.1 = c
    · have hne : entry ≠ ((hub.session n).context, n) := by
        rintro rfl
        exact hc hkey
      simp [hkey, hne]
    · simp [hkey]

lemma IsWithin.congr {α : Type} {f g : Hub → Hub × α} (hg : IsWithin c g)
    (h : ∀ hub, f hub = g hub) : IsWithin c f := by
  rwa [funext h]

lemma isWithin_remove (settings : String → Settings) (c : String) (who : Handle) :
    IsWithin c fun hub => hub.serve settings (.remove c who) := by
  by_cases hc : who.context = c
  · subst hc
    refine ((isLocal_remove.bind fun was => .ask fun _ => Reply.flag was).within who
      (.flag false)).congr fun hub => ?_
    simp only [serve]
    rcases hn : hub.number? who with _ | n
    · rfl
    · rw [← ((number?_eq_some_iff who).1 hn).2]
      rfl
  · -- No session is registered under a context that is not its own.
    have hserve : ∀ hub : Hub, hub.IsWired →
        hub.serve settings (.remove c who) = (hub, .flag false) := by
      intro hub hw
      simp only [serve]
      rcases hn : hub.number? who with _ | n
      · rfl
      · have hnot : (c, n) ∉ hub.entries := fun hmem => hc (by
          rw [← hw.own c n hmem, ← ((number?_eq_some_iff who).1 hn).2]
          rfl)
        have hentries : hub.entries.filter (· ≠ (c, n)) = hub.entries := by
          rw [List.filter_eq_self]
          intro entry hentry
          have hne : entry ≠ (c, n) := by
            rintro rfl
            exact hnot hentry
          simpa using hne
        simp only [remove, forget, hentries]
        simp [hnot]
    refine ⟨fun hub hw => ?_, fun hub hw => ?_, fun hub d hw hd => ?_⟩
    · rwa [hserve hub hw]
    · rw [hserve hub hw]
      simp [serve, number?_only_of_ne hc]
    · rw [hserve hub hw]

/-! ### All of them -/

/-- A call is within the context that it is for. -/
lemma isWithin_serve (settings : String → Settings) (call : Call) :
    IsWithin call.context fun hub => hub.serve settings call := by
  cases call with
  | findOrCreate c => exact isWithin_findOrCreate settings c
  | find c => exact .ask fun hub hw => congrArg Reply.found (hw.found_only c)
  | contains c => exact .ask fun hub hw => congrArg Reply.flag (hw.contains_only c)
  | remove c who => exact isWithin_remove settings c who
  | on who op =>
    exact ((isLocal_act (settings who.context) op).bind fun a =>
      .ask fun _ => Reply.answer a).within who .unknown
  | emit engine events =>
    refine ((isLocal_hear events).bind fun _ => .ask fun _ => Reply.flag true).within_engine
      engine (.flag false) .unknown (fun hub p n hn => ?_) fun hub p hn => ?_
    · simp only [emit, hn]
      rfl
    · simp only [emit, hn]
      rfl
  | takeCommands engine =>
    refine (isLocal_takeCommands.bind fun found => .ask fun _ => Reply.commands found).within_engine
      engine (.commands none) .unknown (fun hub p n hn => ?_) fun hub p hn => ?_
    · simp only [takeCommands, hn]
      rfl
    · simp only [takeCommands, hn]
      rfl
  | dropProcess engine =>
    refine (isLocal_dropProcess.bind fun was => .ask fun _ => Reply.flag was).within_engine
      engine (.flag false) .unknown (fun hub p n hn => ?_) fun hub p hn => ?_
    · simp only [dropProcess, hn]
      rfl
    · simp only [dropProcess, hn]
      rfl

/-- Calls for a context do to what belongs to it what they do to the whole, and calls for others do
nothing to it. -/
lemma IsWired.serveAll_only (h : hub.IsWired) (settings : String → Settings) (c : String)
    (calls : List Call) :
    (hub.only c).serveAll settings (calls.filter fun call => call.context = c) =
      ((hub.serveAll settings calls).1.only c,
        (hub.serveAll settings calls).2.filter fun x => x.1.context = c) := by
  induction calls generalizing hub with
  | nil => rfl
  | cons call calls ih =>
    have hcall := isWithin_serve settings call
    have hlater := ih (hcall.wired hub h)
    by_cases hc : call.context = c
    · subst hc
      have hown := hcall.own hub h
      simp only [List.filter_cons, decide_true, if_true, serveAll, ← hown, Prod.map_fst,
        Prod.map_snd, id_eq, hlater]
    · rw [hcall.other hub c h hc] at hlater
      simp only [List.filter_cons, hc, decide_false, Bool.false_eq_true, if_false, serveAll, hlater]

lemma isWired_empty : empty.IsWired where
  toIsSound := isSound_empty
  started := by simp [empty]

lemma IsWired.serveAll (h : hub.IsWired) (settings : String → Settings) (calls : List Call) :
    (hub.serveAll settings calls).1.IsWired := by
  induction calls generalizing hub with
  | nil => exact h
  | cons call calls ih => exact ih ((isWithin_serve settings call).wired hub h)

/-- **Contexts are isolated.**  Take any calls on a hub, for any number of contexts, where engines
start as their context says.  For each context the replies are those that the calls for it get if
all others are left out.  The hub that these lead to is what belongs to the context in the hub of
all: its sessions are the same, with all that waits in their channels, for their listeners and for
their engines, and so is its log file. -/
theorem serveAll_isolated (settings : String → Settings) (c : String) (calls : List Call) :
    let together := empty.serveAll settings calls
    let alone := empty.serveAll settings (calls.filter fun call => call.context = c)
    alone.2 = together.2.filter (fun x => x.1.context = c) ∧
    alone.1 = together.1.only c ∧
    (∀ place, (alone.1.number? ⟨c, place⟩).map alone.1.session =
      (together.1.number? ⟨c, place⟩).map together.1.session) ∧
    (∀ place, ((alone.1.engine? ⟨c, place⟩).map alone.1.running?).map (Option.map alone.1.session) =
      ((together.1.engine? ⟨c, place⟩).map together.1.running?).map
        (Option.map together.1.session)) ∧
    alone.1.files.lookup (Session.LogFile.name c) =
      together.1.files.lookup (Session.LogFile.name c) := by
  intro together alone
  have hall : alone = (together.1.only c, together.2.filter fun x => x.1.context = c) :=
    isWired_empty.serveAll_only settings c calls
  have halone : alone.1 = together.1.only c := congrArg Prod.fst hall
  have hw : together.1.IsWired := isWired_empty.serveAll settings calls
  rw [halone]
  refine ⟨congrArg Prod.snd hall, rfl, fun place => ?_, fun place => ?_,
    lookup_only_files together.1 c⟩
  · have hnumber : (together.1.only c).number? ⟨c, place⟩ =
        (together.1.number? ⟨c, place⟩).map fun n => (together.1.handle n).place :=
      number?_only rfl
    rw [hnumber, Option.map_map]
    refine Option.map_congr fun n hn => ?_
    obtain ⟨hlt, hwho⟩ := (number?_eq_some_iff _).1 hn
    exact session_only hlt (congrArg Handle.context hwho)
  · have hengine : ((together.1.only c).engine? ⟨c, place⟩).map (together.1.only c).running? =
        ((together.1.engine? ⟨c, place⟩).map together.1.running?).map
          (Option.map fun n => (together.1.handle n).place) :=
      hw.engine?_only rfl
    rw [hengine, Option.map_map]
    refine Option.map_congr fun running hrunning => ?_
    rcases running with _ | n
    · rfl
    · obtain ⟨hlt, hc⟩ := hw.of_running hrunning
      exact congrArg some (session_only hlt hc)

end SharedTerminal.Hub
