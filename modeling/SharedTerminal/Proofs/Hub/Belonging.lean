import SharedTerminal.Proofs.Hub.Call
import SharedTerminal.Proofs.Session.LogFile

/-!
# What belongs to a context

All contexts of a hub share its register, its engines and the directory of its log files.  `only`
takes out of a hub what belongs to one context, numbered as if nothing else were there, and gives a
hub again.

Who has a handle in a context is there under the same handle: `session_only` and `number?_only` for
sessions, `IsWired.engine?_only` for engines, `IsSound.find?_only` for the register, and
`lookup_only_files` for the log file.
-/

namespace SharedTerminal.Hub

variable {hub : Hub} {c : String} {n : Nat}

/-! ## Places in a list -/

section Places

variable {α : Type} {l : List α} {f : α → String} {a b : α} {names : List String} {i : Nat}

lemma getElem?_filter_countBefore (hn : l[n]? = some a) (ha : f a = c) :
    (l.filter fun x => f x = c)[(l.map f).countBefore c n]? = some a := by
  induction l generalizing n with
  | nil => simp at hn
  | cons x l ih =>
    cases n with
    | zero =>
      obtain rfl : x = a := by simpa using hn
      simp [ha]
    | succ n =>
      have hlater := ih (n := n) (by simpa using hn)
      by_cases hx : f x = c
      · simpa [hx] using hlater
      · simpa [hx] using hlater

lemma filter_set (hn : l[n]? = some a) (hb : f b = f a) :
    (l.set n b).filter (fun x => f x = c) =
      if f a = c then (l.filter fun x => f x = c).set ((l.map f).countBefore c n) b
      else l.filter fun x => f x = c := by
  induction l generalizing n with
  | nil => simp at hn
  | cons x l ih =>
    cases n with
    | zero =>
      obtain rfl : x = a := by simpa using hn
      by_cases hx : f x = c <;> simp [hb, hx]
    | succ n =>
      have hlater := ih (n := n) (by simpa using hn)
      by_cases hx : f x = c <;> by_cases ha : f a = c <;> simp [hx, ha] at hlater ⊢ <;>
        exact hlater

lemma getElem?_idxsOf_eq_some_iff :
    (names.idxsOf c)[i]? = some n ↔ names[n]? = some c ∧ names.countBefore c n = i := by
  constructor
  · intro h
    obtain ⟨hi, rfl⟩ := List.getElem?_eq_some_iff.1 h
    rw [List.length_idxsOf] at hi
    rw [List.getElem_idxOf_eq_idxOfNth]
    refine ⟨?_, List.countBefore_idxOfNth_of_lt_count hi⟩
    have hlt := List.idxOfNth_lt_length_of_lt_count hi
    rw [List.getElem?_eq_getElem hlt, List.getElem_idxOfNth_eq]
  · rintro ⟨hn, rfl⟩
    obtain ⟨hlt, rfl⟩ := List.getElem?_eq_some_iff.1 hn
    have hi : names.countBefore names[n] n < names.count names[n] :=
      List.countBefore_lt_count_getElem
    rw [← List.length_idxsOf] at hi
    rw [List.getElem?_eq_getElem hi, List.getElem_idxOf_eq_idxOfNth,
      List.idxOfNth_countBefore_getElem]

lemma map_filter_eq_replicate :
    (l.filter fun x => f x = c).map f = List.replicate ((l.map f).count c) c := by
  induction l with
  | nil => rfl
  | cons x l ih =>
    by_cases hx : f x = c
    · simp [hx, ih, List.replicate_succ]
    · simp [hx, ih]

lemma countBefore_replicate {k : Nat} (hi : i ≤ k) (c : String) :
    (List.replicate k c).countBefore c i = i := by
  simp [List.countBefore_eq_count_take, List.take_replicate, Nat.min_eq_left hi]

lemma getElem?_idxsOf_replicate (k i : Nat) (c : String) :
    ((List.replicate k c).idxsOf c)[i]? = if i < k then some i else none := by
  split
  · next hi =>
    rw [getElem?_idxsOf_eq_some_iff, List.getElem?_replicate, if_pos hi]
    exact ⟨rfl, countBefore_replicate (Nat.le_of_lt hi) c⟩
  · next hi => rw [List.getElem?_eq_none (by simpa using hi)]

lemma getElem?_idxsOf_eq_none_iff :
    (names.idxsOf c)[i]? = none ↔ ¬ i < names.count c := by
  rw [List.getElem?_eq_none_iff, List.length_idxsOf, Nat.not_lt]

end Places

/-! ## What belongs to a context -/

/-- What belongs to a context in a hub, as a hub of its own. -/
def only (hub : Hub) (c : String) : Hub where
  sessions := hub.sessions.filter fun s => s.context = c
  entries := (hub.entries.filter fun entry => entry.1 = c).map fun entry =>
    (entry.1, (hub.handle entry.2).place)
  processes := (hub.processes.filter fun n => (hub.session n).context = c).map fun n =>
    (hub.handle n).place
  files := hub.files.filter fun file => file.1 = Session.LogFile.name c

/-- A sound hub in which every engine was started by a session. -/
structure IsWired (hub : Hub) : Prop extends IsSound hub where
  /-- Who started an engine is a session. -/
  started : ∀ n ∈ hub.processes, n < hub.sessions.length

lemma getElem?_sessions (hn : n < hub.sessions.length) :
    hub.sessions[n]? = some (hub.session n) := by
  rw [List.getElem?_eq_getElem hn, session_eq_getElem hn]

lemma context_session (hub : Hub) (n : Nat) :
    (hub.session n).context = hub.homes.getD n "" := by
  simp only [homes, session, List.getD_eq_getElem?_getD, List.getElem?_map]
  cases hub.sessions[n]? <;> rfl

lemma getElem?_homes (hn : n < hub.sessions.length) :
    hub.homes[n]? = some (hub.session n).context := by
  rw [homes, List.getElem?_map, getElem?_sessions hn]
  rfl

lemma place_handle (hc : (hub.session n).context = c) :
    (hub.handle n).place = hub.homes.countBefore c n := by
  simp [handle, hc]

/-- The session at its place among those of its context is the same. -/
lemma getElem?_sessions_only (hn : n < hub.sessions.length) (hc : (hub.session n).context = c) :
    (hub.only c).sessions[(hub.handle n).place]? = some (hub.session n) := by
  rw [place_handle hc]
  exact getElem?_filter_countBefore (getElem?_sessions hn) hc

lemma session_only (hn : n < hub.sessions.length) (hc : (hub.session n).context = c) :
    (hub.only c).session (hub.handle n).place = hub.session n := by
  rw [session, List.getD_eq_getElem?_getD, getElem?_sessions_only hn hc]
  rfl

/-- Two sessions of a context have different places. -/
lemma place_inj {m : Nat} (hn : n < hub.sessions.length) (hm : m < hub.sessions.length)
    (hc : (hub.session n).context = c) (hd : (hub.session m).context = c)
    (h : (hub.handle n).place = (hub.handle m).place) : n = m := by
  rw [place_handle hc, place_handle hd] at h
  have hfind : ∀ k < hub.sessions.length, (hub.session k).context = c →
      (hub.homes.idxsOf c)[hub.homes.countBefore c k]? = some k := by
    intro k hk hhome
    rw [getElem?_idxsOf_eq_some_iff, getElem?_homes hk, hhome]
    exact ⟨rfl, rfl⟩
  have hsame := hfind n hn hc
  rw [h, hfind m hm hd] at hsame
  exact (Option.some.inj hsame).symm

/-! ## Whom a handle means -/

lemma homes_only (hub : Hub) (c : String) :
    (hub.only c).homes = List.replicate (hub.homes.count c) c :=
  map_filter_eq_replicate

lemma number?_eq_some_iff (who : Handle) :
    hub.number? who = some n ↔ n < hub.sessions.length ∧ hub.handle n = who := by
  rw [number?, getElem?_idxsOf_eq_some_iff]
  constructor
  · rintro ⟨hn, hplace⟩
    have hlt : n < hub.sessions.length := by
      simpa [homes] using (List.getElem?_eq_some_iff.1 hn).1
    rw [getElem?_homes hlt, Option.some.injEq] at hn
    exact ⟨hlt, by simp only [handle, hn, hplace]⟩
  · rintro ⟨hlt, rfl⟩
    exact ⟨getElem?_homes hlt, rfl⟩

/-- The sessions of a context are there, each at its place. -/
lemma number?_only {who : Handle} (hwho : who.context = c) :
    (hub.only c).number? who = (hub.number? who).map fun n => (hub.handle n).place := by
  subst hwho
  rw [number?, homes_only, getElem?_idxsOf_replicate]
  rcases hn : hub.number? who with _ | n
  · rw [number?, getElem?_idxsOf_eq_none_iff] at hn
    rw [if_neg hn]
    rfl
  · have hlt : who.place < hub.homes.count who.context := by
      by_contra hnot
      rw [← getElem?_idxsOf_eq_none_iff, ← number?, hn] at hnot
      exact absurd hnot (by simp)
    rw [if_pos hlt, Option.map_some, ((number?_eq_some_iff who).1 hn).2]

/-- No others are. -/
lemma number?_only_of_ne {who : Handle} (hwho : who.context ≠ c) :
    (hub.only c).number? who = none := by
  rw [number?, homes_only, getElem?_idxsOf_eq_none_iff, List.count_replicate]
  simp [Ne.symm hwho]

lemma handle_only (hn : n < hub.sessions.length) (hc : (hub.session n).context = c) :
    (hub.only c).handle (hub.handle n).place = hub.handle n := by
  subst hc
  have hplace := (number?_eq_some_iff (hub.handle n)).2 ⟨hn, rfl⟩
  have honly : (hub.only _).number? (hub.handle n) =
      (hub.number? (hub.handle n)).map fun n => (hub.handle n).place := number?_only rfl
  rw [hplace, Option.map_some] at honly
  exact ((number?_eq_some_iff _).1 honly).2

/-- The contexts of the engines of one context. -/
lemma IsWired.map_processes_only (h : hub.IsWired) (c : String) :
    ((hub.only c).processes.map fun n => ((hub.only c).session n).context) =
      List.replicate ((hub.processes.map fun n => (hub.session n).context).count c) c := by
  rw [← map_filter_eq_replicate]
  change List.map _ (List.map _ _) = _
  rw [List.map_map]
  refine List.map_congr_left fun n hn => ?_
  obtain ⟨hmem, hc⟩ := List.mem_filter.1 hn
  exact congrArg Session.context (session_only (h.started n hmem) (by simpa using hc))

/-- An engine that has a handle was started by a session of the context. -/
lemma engine?_eq_some_iff (engine : Handle) (p : Nat) :
    hub.engine? engine = some p ↔
      (∃ n, hub.processes[p]? = some n ∧ (hub.session n).context = engine.context) ∧
        (hub.processes.map fun n => (hub.session n).context).countBefore engine.context p =
          engine.place := by
  rw [engine?, getElem?_idxsOf_eq_some_iff, List.getElem?_map, Option.map_eq_some_iff]

lemma IsWired.of_running (h : hub.IsWired) {engine : Handle}
    (hn : (hub.engine? engine).map hub.running? = some (some n)) :
    n < hub.sessions.length ∧ (hub.session n).context = engine.context := by
  obtain ⟨p, hp, hrun⟩ := Option.map_eq_some_iff.1 hn
  obtain ⟨⟨m, hm, hc⟩, _⟩ := (engine?_eq_some_iff engine p).1 hp
  obtain ⟨hfound, _⟩ := Option.filter_eq_some_iff.1 hrun
  obtain rfl : m = n := Option.some.inj (hm.symm.trans hfound)
  exact ⟨h.started m (List.mem_of_getElem? hm), hc⟩

/-- The engines of a context are there, each at its place, and those that run still do. -/
lemma IsWired.engine?_only (h : hub.IsWired) {engine : Handle} (hengine : engine.context = c) :
    ((hub.only c).engine? engine).map (hub.only c).running? =
      ((hub.engine? engine).map hub.running?).map (Option.map fun n => (hub.handle n).place) := by
  subst hengine
  rw [engine?, h.map_processes_only, getElem?_idxsOf_replicate]
  rcases hp : hub.engine? engine with _ | p
  · rw [engine?, getElem?_idxsOf_eq_none_iff] at hp
    rw [if_neg hp]
    rfl
  · have hlt : engine.place <
        (hub.processes.map fun n => (hub.session n).context).count engine.context := by
      by_contra hnot
      rw [← getElem?_idxsOf_eq_none_iff, ← engine?, hp] at hnot
      exact absurd hnot (by simp)
    obtain ⟨⟨n, hn, hc⟩, hplace⟩ := (engine?_eq_some_iff engine p).1 hp
    have hsession := session_only (h.started n (List.mem_of_getElem? hn)) hc
    have honly : (hub.only engine.context).processes[engine.place]? =
        some (hub.handle n).place := by
      change (List.map _ (List.filter _ hub.processes))[engine.place]? = _
      rw [List.getElem?_map, ← hplace,
        getElem?_filter_countBefore (f := fun n => (hub.session n).context) hn hc]
      rfl
    simp only [if_pos hlt, Option.map_some, running?, honly, hn, Option.filter_some, hsession]
    split <;> rfl

/-! ## The register -/

lemma lookup_map_filter (entries : List (String × Nat)) (c : String) (f : Nat → Nat) :
    ((entries.filter fun entry => entry.1 = c).map fun entry => (entry.1, f entry.2)).lookup c =
      (entries.lookup c).map f := by
  induction entries with
  | nil => rfl
  | cons entry entries ih =>
    obtain ⟨key, n⟩ := entry
    by_cases hkey : key = c
    · simp [hkey]
    · have hne : (c == key) = false := by simpa using Ne.symm hkey
      rw [List.filter_cons_of_neg (by simpa using hkey), ih, List.lookup_cons, hne]

lemma IsSound.find?_only (h : hub.IsSound) (c : String) :
    (hub.only c).find? c = (hub.find? c).map fun n => (hub.handle n).place := by
  have hlookup : (hub.only c).entries.lookup c =
      (hub.entries.lookup c).map fun n => (hub.handle n).place :=
    lookup_map_filter hub.entries c fun n => (hub.handle n).place
  rw [find?, find?, hlookup]
  rcases hn : hub.entries.lookup c with _ | n
  · rfl
  · have hmem := (h.lookup_eq_some_iff c n).1 hn
    have hsession := session_only (h.bound c n hmem) (h.own c n hmem)
    simp only [Option.map_some, Option.filter_some, hsession]
    split <;> rfl

lemma IsSound.contains_only (h : hub.IsSound) (c : String) :
    (hub.only c).contains c = hub.contains c := by
  rw [contains, contains, h.find?_only, Option.isSome_map]

lemma IsSound.found_only (h : hub.IsSound) (c : String) :
    ((hub.only c).find? c).map (hub.only c).handle = (hub.find? c).map hub.handle := by
  rw [h.find?_only, Option.map_map]
  refine Option.map_congr fun n hn => ?_
  have hmem := (h.find?_eq_some_iff c n).1 hn
  exact handle_only (h.bound c n hmem) (h.own c n hmem)

/-! ## The log file -/

/-- A file that belongs to a context is that of no other. -/
lemma lookup_only_files (hub : Hub) (c : String) :
    (hub.only c).files.lookup (Session.LogFile.name c) =
      hub.files.lookup (Session.LogFile.name c) := by
  rw [only]
  induction hub.files with
  | nil => rfl
  | cons file files ih =>
    obtain ⟨key, bytes⟩ := file
    by_cases hkey : key = Session.LogFile.name c
    · simp [hkey]
    · rw [List.filter_cons_of_neg (by simpa using hkey), ih, List.lookup_cons]
      have hne : (Session.LogFile.name c == key) = false := by simpa using Ne.symm hkey
      rw [hne]

end SharedTerminal.Hub
