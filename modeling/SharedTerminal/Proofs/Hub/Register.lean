import SharedTerminal.Proofs.Hub.Operation
import Mathlib.Data.List.Nodup

/-!
# The register and the sessions that live

Nobody takes a session off the register when it ends: it does so itself, by its farewell, in the
middle of whatever ended it.  So what the register has depends on all that was ever done to any of
the sessions.

`IsSound` says that the entries are live sessions, each under its context, and `IsComplete` that
all live sessions are registered.  Every operation preserves the first, and all but the removal of
an entry by hand preserve the second.  The main statement is `evolve_consistent`.
-/

namespace SharedTerminal.Hub

variable {hub : Hub}

/-- The entries of a register are sessions that live, each under its context, and no context has
two. -/
structure IsSound (hub : Hub) : Prop where
  /-- Every session is open or closed. -/
  sessions : ∀ n, (hub.session n).IsSound true
  /-- No context has two entries. -/
  keys : (hub.entries.map Prod.fst).Nodup
  /-- The entries are sessions, -/
  bound : ∀ context n, (context, n) ∈ hub.entries → n < hub.sessions.length
  /-- under their context, -/
  own : ∀ context n, (context, n) ∈ hub.entries → (hub.session n).context = context
  /-- and they live. -/
  live : ∀ context n, (context, n) ∈ hub.entries → (hub.session n).isDestroyed = false

/-- Every session that lives is registered under its context. -/
def IsComplete (hub : Hub) : Prop :=
  ∀ n < hub.sessions.length, (hub.session n).isDestroyed = false →
    ((hub.session n).context, n) ∈ hub.entries

lemma isSound_empty : empty.IsSound where
  sessions n := by
    rw [session_of_le (Nat.zero_le n)]
    exact Or.inl (Session.isOpen_fresh "" true)
  keys := List.nodup_nil
  bound := by simp [empty]
  own := by simp [empty]
  live := by simp [empty]

lemma isComplete_empty : empty.IsComplete := by simp [IsComplete, empty]

/-! ## An operation on one session -/

/-- The entries after an operation on a session: if it ends the session, its entry is gone. -/
lemma IsSound.mem_entries_on (h : hub.IsSound) (n : Nat) (op : Session.Operation)
    (entry : String × Nat) :
    entry ∈ (hub.step (.on n op)).entries ↔
      entry ∈ hub.entries ∧
        ¬ (entry = ((hub.session n).context, n) ∧
          (hub.session n).isDestroyed = false ∧ ((hub.session n).step op).isDestroyed = true) := by
  rw [entries_on, (h.sessions n).context_step op]
  simp only [(h.sessions n).farewells_lt_step op]
  split
  · next hends => simp [hends]
  · next hends => simp [hends]

/-- An operation on a session takes no other session off the register. -/
lemma IsSound.mem_entries_on_of_ne (h : hub.IsSound) {n : Nat} (op : Session.Operation)
    {entry : String × Nat} (hmem : entry ∈ hub.entries) (hne : entry.2 ≠ n) :
    entry ∈ (hub.step (.on n op)).entries := by
  rw [h.mem_entries_on n op entry]
  refine ⟨hmem, fun hends => hne ?_⟩
  rw [hends.1]

lemma IsSound.on (h : hub.IsSound) (n : Nat) (op : Session.Operation) :
    (hub.step (.on n op)).IsSound := by
  have hmem := h.mem_entries_on n op
  refine ⟨?_, ?_, ?_, ?_, ?_⟩
  · intro m
    by_cases hm : m = n
    · subst hm
      by_cases hlt : m < hub.sessions.length
      · rw [session_on hlt]
        exact (h.sessions m).step op
      · rw [session_of_le (by simpa using hlt)]
        exact Or.inl (Session.isOpen_fresh "" true)
    · rw [session_on_of_ne hm]
      exact h.sessions m
  · rw [entries_on]
    split
    · exact h.keys.sublist (List.filter_sublist.map _)
    · exact h.keys
  · intro context m hentry
    rw [length_on]
    exact h.bound context m ((hmem _).1 hentry).1
  · intro context m hentry
    have hbefore := ((hmem _).1 hentry).1
    by_cases hm : m = n
    · subst hm
      rw [session_on (h.bound context m hbefore), (h.sessions m).context_step]
      exact h.own context m hbefore
    · rw [session_on_of_ne hm]
      exact h.own context m hbefore
  · intro context m hentry
    obtain ⟨hbefore, hkept⟩ := (hmem _).1 hentry
    by_cases hm : m = n
    · subst hm
      rw [session_on (h.bound context m hbefore)]
      have hlive := h.live context m hbefore
      rcases hends : ((hub.session m).step op).isDestroyed with _ | _
      · rfl
      · exact absurd ⟨by rw [h.own context m hbefore], hlive, hends⟩ hkept
    · rw [session_on_of_ne hm]
      exact h.live context m hbefore

/-- A session that has ended does not come back to life. -/
lemma IsSound.isDestroyed_on (h : hub.IsSound) {m : Nat}
    (hd : (hub.session m).isDestroyed = true) (n : Nat) (op : Session.Operation) :
    ((hub.step (.on n op)).session m).isDestroyed = true := by
  by_cases hm : m = n
  · subst hm
    by_cases hlt : m < hub.sessions.length
    · rw [session_on hlt, (h.sessions m).isDestroyed_step op]
      exact Or.inl hd
    · rw [session_of_le (by omega)] at hd
      exact absurd hd (by decide)
  · rw [session_on_of_ne hm]
    exact hd

lemma IsComplete.on (hc : hub.IsComplete) (h : hub.IsSound) (n : Nat)
    (op : Session.Operation) : (hub.step (.on n op)).IsComplete := by
  intro m hlt hlive
  rw [length_on] at hlt
  have hbefore : (hub.session m).isDestroyed = false := by
    rcases hd : (hub.session m).isDestroyed with _ | _
    · rfl
    · exact absurd (h.isDestroyed_on hd n op) (by simp [hlive])
  by_cases hm : m = n
  · -- The session still lives, so this was not the operation that ended it.
    subst hm
    rw [session_on hlt] at hlive ⊢
    rw [(h.sessions m).context_step, h.mem_entries_on]
    exact ⟨hc m hlt hbefore, fun hends => by simp [hlive] at hends⟩
  · rw [session_on_of_ne hm]
    exact h.mem_entries_on_of_ne op (hc m hlt hbefore) hm

/-! ## Asking for a session -/

lemma IsSound.lookup_eq_some_iff (h : hub.IsSound) (context : String) (n : Nat) :
    hub.entries.lookup context = some n ↔ (context, n) ∈ hub.entries := by
  have hkeys := h.keys
  revert hkeys
  induction hub.entries with
  | nil => simp
  | cons entry entries ih =>
    intro hkeys
    obtain ⟨key, m⟩ := entry
    simp only [List.map_cons, List.nodup_cons] at hkeys
    by_cases hkey : context = key
    · subst hkey
      simp only [List.lookup_cons_self, Option.some.injEq, List.mem_cons, Prod.mk.injEq, true_and]
      constructor
      · rintro rfl
        exact Or.inl rfl
      · rintro (rfl | hmem)
        · rfl
        · exact absurd (List.mem_map_of_mem (f := Prod.fst) hmem) hkeys.1
    · have hne : (context == key) = false := by simpa using hkey
      rw [List.lookup_cons, hne]
      simp [hkey, ih hkeys.2]

/-- The session that is found for a context is the one that is registered. -/
lemma IsSound.find?_eq_some_iff (h : hub.IsSound) (context : String) (n : Nat) :
    hub.find? context = some n ↔ (context, n) ∈ hub.entries := by
  rw [find?, Option.filter_eq_some_iff, h.lookup_eq_some_iff]
  constructor
  · exact fun hfound => hfound.1
  · exact fun hmem => ⟨hmem, by simp [h.live context n hmem]⟩

lemma IsSound.find?_eq_none_iff (h : hub.IsSound) (context : String) :
    hub.find? context = none ↔ ∀ n, (context, n) ∉ hub.entries := by
  rw [Option.eq_none_iff_forall_ne_some]
  exact forall_congr' fun n => not_congr (h.find?_eq_some_iff context n)

lemma findOrCreate_of_some {context : String} {n : Nat} (hn : hub.find? context = some n) :
    hub.findOrCreate context = (hub, n) := by
  simp [findOrCreate, hn]

/-- If none is found, the new session is the last one, and it is registered. -/
lemma IsSound.findOrCreate_of_none (h : hub.IsSound) {context : String}
    (hn : hub.find? context = none) :
    hub.findOrCreate context =
      ({ hub with
          sessions := hub.sessions ++ [.fresh context]
          entries := hub.entries ++ [(context, hub.sessions.length)] }, hub.sessions.length) := by
  have hnone := (h.find?_eq_none_iff context).1 hn
  have hfilter : hub.entries.filter (·.1 ≠ context) = hub.entries := by
    rw [List.filter_eq_self]
    rintro ⟨key, m⟩ hmem
    have hne : key ≠ context := by
      rintro rfl
      exact hnone m hmem
    simpa using hne
  simp only [findOrCreate, hn, create, hfilter]

/-- The hub with one more session, which is new. -/
lemma session_append (hub : Hub) (context : String) (entries : List (String × Nat)) (m : Nat) :
    ({ hub with
        sessions := hub.sessions ++ [.fresh context], entries := entries } : Hub).session m =
      if m = hub.sessions.length then .fresh context else hub.session m := by
  simp only [session, List.getD_eq_getElem?_getD]
  rcases Nat.lt_trichotomy m hub.sessions.length with hlt | rfl | hgt
  · rw [List.getElem?_append_left hlt, if_neg (by omega)]
  · simp
  · rw [if_neg (by omega), List.getElem?_eq_none (by simp; omega),
      List.getElem?_eq_none (by omega)]

lemma IsSound.findOrCreate (h : hub.IsSound) (context : String) :
    (hub.findOrCreate context).1.IsSound := by
  rcases hn : hub.find? context with _ | n
  · have hnone := (h.find?_eq_none_iff context).1 hn
    rw [h.findOrCreate_of_none hn]
    refine ⟨?_, ?_, ?_, ?_, ?_⟩
    · intro m
      rw [session_append]
      split
      · exact Or.inl (Session.isOpen_fresh context true)
      · exact h.sessions m
    · -- The new key is not among the old ones, since nothing was found for it.
      simp only [List.map_append, List.map_cons, List.map_nil, List.nodup_append]
      refine ⟨h.keys, by simp, ?_⟩
      rintro key hkey other hother rfl
      obtain ⟨⟨key, m⟩, hmem, rfl⟩ := List.mem_map.1 hkey
      obtain rfl : key = context := by simpa using hother
      exact hnone m hmem
    · intro key m hmem
      rcases List.mem_append.1 hmem with hmem | hmem
      · have hlt := h.bound key m hmem
        simp
        omega
      · obtain ⟨rfl, rfl⟩ : key = context ∧ m = hub.sessions.length := by simpa using hmem
        simp
    · intro key m hmem
      rw [session_append]
      rcases List.mem_append.1 hmem with hmem | hmem
      · have hlt := h.bound key m hmem
        rw [if_neg (by omega)]
        exact h.own key m hmem
      · obtain ⟨rfl, rfl⟩ : key = context ∧ m = hub.sessions.length := by simpa using hmem
        rw [if_pos rfl]
        rfl
    · intro key m hmem
      rw [session_append]
      rcases List.mem_append.1 hmem with hmem | hmem
      · have hlt := h.bound key m hmem
        rw [if_neg (by omega)]
        exact h.live key m hmem
      · obtain ⟨rfl, rfl⟩ : key = context ∧ m = hub.sessions.length := by simpa using hmem
        rw [if_pos rfl]
        rfl
  · rw [findOrCreate_of_some hn]
    exact h

lemma IsComplete.findOrCreate (hc : hub.IsComplete) (h : hub.IsSound) (context : String) :
    (hub.findOrCreate context).1.IsComplete := by
  rcases hn : hub.find? context with _ | n
  · rw [h.findOrCreate_of_none hn]
    intro m hlt hlive
    rw [session_append] at hlive ⊢
    by_cases hm : m = hub.sessions.length
    · subst hm
      rw [if_pos rfl]
      exact List.mem_append_right _ (by simp [Session.fresh])
    · rw [if_neg hm] at hlive ⊢
      have hbefore : m < hub.sessions.length := by
        simp at hlt
        omega
      exact List.mem_append_left _ (hc m hbefore hlive)
  · rw [findOrCreate_of_some hn]
    exact hc

/-! ## The end of all sessions, and removal by hand -/

/-- Telling sessions to end, one after the other, keeps the register sound, creates none and ends
at least those. -/
lemma IsSound.evolve_shutdowns (h : hub.IsSound) (entries : List (String × Nat)) :
    let next := hub.evolve (entries.map fun entry => .on entry.2 .shutdown)
    next.IsSound ∧ next.sessions.length = hub.sessions.length ∧
      ∀ n < hub.sessions.length, (hub.session n).isDestroyed = true ∨ n ∈ entries.map Prod.snd →
        (next.session n).isDestroyed = true := by
  induction entries generalizing hub with
  | nil => exact ⟨h, rfl, fun n _ hn => hn.resolve_right (by simp)⟩
  | cons entry entries ih =>
    obtain ⟨hsound, hlength, hended⟩ := ih (h.on entry.2 .shutdown)
    have hsame := length_on hub entry.2 .shutdown
    refine ⟨hsound, hlength.trans hsame, fun n hlt hn => hended n (by omega) ?_⟩
    rcases hn with hd | hmem
    · exact Or.inl (h.isDestroyed_on hd entry.2 .shutdown)
    · simp only [List.map_cons, List.mem_cons] at hmem
      rcases hmem with rfl | hmem
      · rw [session_on hlt, (h.sessions entry.2).isDestroyed_step]
        exact Or.inl (Or.inr (Or.inl rfl))
      · exact Or.inr hmem

lemma sessions_shutdown (hub : Hub) :
    hub.shutdown.sessions =
      (hub.evolve (hub.entries.map fun entry => .on entry.2 .shutdown)).sessions := by
  rw [shutdown_eq]

lemma session_shutdown (hub : Hub) (n : Nat) :
    hub.shutdown.session n =
      (hub.evolve (hub.entries.map fun entry => .on entry.2 .shutdown)).session n := by
  rw [session, session, sessions_shutdown]

lemma IsSound.shutdown (h : hub.IsSound) : hub.shutdown.IsSound where
  sessions n := by
    rw [session_shutdown]
    exact (h.evolve_shutdowns hub.entries).1.sessions n
  keys := List.nodup_nil
  bound := by simp [Hub.shutdown]
  own := by simp [Hub.shutdown]
  live := by simp [Hub.shutdown]

/-- After the end of all sessions none lives, if all that lived were registered. -/
lemma IsComplete.isDestroyed_shutdown (hc : hub.IsComplete) (h : hub.IsSound) {n : Nat}
    (hn : n < hub.sessions.length) : (hub.shutdown.session n).isDestroyed = true := by
  rw [session_shutdown]
  refine (h.evolve_shutdowns hub.entries).2.2 n hn ?_
  rcases hd : (hub.session n).isDestroyed with _ | _
  · exact Or.inr (List.mem_map_of_mem (f := Prod.snd) (hc n hn hd))
  · exact Or.inl rfl

lemma IsSound.length_shutdown (h : hub.IsSound) :
    hub.shutdown.sessions.length = hub.sessions.length := by
  rw [sessions_shutdown]
  exact (h.evolve_shutdowns hub.entries).2.1

lemma IsComplete.shutdown (hc : hub.IsComplete) (h : hub.IsSound) :
    hub.shutdown.IsComplete := by
  intro n hn hlive
  rw [h.length_shutdown] at hn
  exact absurd (hc.isDestroyed_shutdown h hn) (by simp [hlive])

lemma mem_entries_remove (hub : Hub) (context : String) (n : Nat) (entry : String × Nat) :
    entry ∈ (hub.step (.remove context n)).entries ↔
      entry ∈ hub.entries ∧ entry ≠ (context, n) := by
  simp [step, remove, forget]

lemma IsSound.remove (h : hub.IsSound) (context : String) (n : Nat) :
    (hub.step (.remove context n)).IsSound where
  sessions := h.sessions
  keys := h.keys.sublist (List.filter_sublist.map _)
  bound key m hmem := h.bound key m ((mem_entries_remove hub context n _).1 hmem).1
  own key m hmem := h.own key m ((mem_entries_remove hub context n _).1 hmem).1
  live key m hmem := h.live key m ((mem_entries_remove hub context n _).1 hmem).1

/-! ## Whole runs -/

lemma IsSound.step (h : hub.IsSound) (op : Operation) : (hub.step op).IsSound := by
  cases op with
  | findOrCreate context => exact h.findOrCreate context
  | on n op => exact h.on n op
  | shutdown => exact h.shutdown
  | remove context n => exact h.remove context n

lemma IsComplete.step (hc : hub.IsComplete) (h : hub.IsSound) {op : Operation}
    (hop : op.isRemoval = false) : (hub.step op).IsComplete := by
  cases op with
  | findOrCreate context => exact hc.findOrCreate h context
  | on n op => exact hc.on h n op
  | shutdown => exact hc.shutdown h
  | remove context n => simp [Operation.isRemoval] at hop

lemma IsSound.evolve (h : hub.IsSound) (ops : List Operation) : (hub.evolve ops).IsSound := by
  induction ops generalizing hub with
  | nil => exact h
  | cons op ops ih => exact ih (h.step op)

lemma IsComplete.evolve (hc : hub.IsComplete) (h : hub.IsSound) (ops : List Operation)
    (hops : ∀ op ∈ ops, op.isRemoval = false) : (hub.evolve ops).IsComplete := by
  induction ops generalizing hub with
  | nil => exact hc
  | cons op ops ih =>
    have hfirst : op.isRemoval = false := hops op List.mem_cons_self
    exact ih (hc.step h hfirst) (h.step op) fun next hnext =>
      hops next (List.mem_cons_of_mem op hnext)

/-! ## What the register tells -/

/-- A session of a hub lives and belongs to a context. -/
def LivesIn (hub : Hub) (n : Nat) (context : String) : Prop :=
  n < hub.sessions.length ∧ (hub.session n).context = context ∧
    (hub.session n).isDestroyed = false

lemma IsSound.mem_entries_iff (h : hub.IsSound) (hc : hub.IsComplete) (context : String)
    (n : Nat) : (context, n) ∈ hub.entries ↔ hub.LivesIn n context := by
  constructor
  · intro hmem
    exact ⟨h.bound context n hmem, h.own context n hmem, h.live context n hmem⟩
  · rintro ⟨hlt, rfl, hlive⟩
    exact hc n hlt hlive

/-- A context has one entry at most. -/
lemma IsSound.eq_of_mem_entries (h : hub.IsSound) {context : String} {n m : Nat}
    (hn : (context, n) ∈ hub.entries) (hm : (context, m) ∈ hub.entries) : n = m := by
  rw [← h.lookup_eq_some_iff] at hn hm
  exact Option.some.inj (hn.symm.trans hm)

lemma mem_contexts_iff (hub : Hub) (context : String) :
    context ∈ hub.contexts ↔ ∃ n, (context, n) ∈ hub.entries := by
  simp [contexts]

lemma IsSound.nodup_contexts (h : hub.IsSound) : hub.contexts.Nodup :=
  ((List.mergeSort_perm _ _).nodup_iff).2 h.keys

/-- The numbers of the registered sessions are those of the sessions that live. -/
lemma IsSound.perm_numbers (h : hub.IsSound) (hc : hub.IsComplete) :
    (hub.entries.map Prod.snd).Perm
      ((List.range hub.sessions.length).filter fun n => !(hub.session n).isDestroyed) := by
  have hnodup : (hub.entries.map Prod.snd).Nodup := by
    -- A session belongs to one context, so no number stands under two keys.
    refine List.Nodup.map_on ?_ h.keys.of_map
    rintro ⟨c, n⟩ hn ⟨d, m⟩ hm rfl
    rw [← h.own c n hn, ← h.own d n hm]
  refine (List.perm_ext_iff_of_nodup hnodup (List.nodup_range.filter _)).2 fun n => ?_
  simp only [List.mem_map, List.mem_filter, List.mem_range, Bool.not_eq_true']
  constructor
  · rintro ⟨⟨context, m⟩, hmem, rfl⟩
    exact ⟨h.bound context m hmem, h.live context m hmem⟩
  · rintro ⟨hlt, hlive⟩
    exact ⟨_, hc n hlt hlive, rfl⟩

/-- The size of the register is the number of sessions that live. -/
lemma IsSound.size_eq (h : hub.IsSound) (hc : hub.IsComplete) :
    hub.size = hub.sessions.countP fun s => !s.isDestroyed := by
  have hlist : (List.range hub.sessions.length).map hub.session = hub.sessions := by
    refine List.ext_getElem (by simp) fun n h1 h2 => ?_
    rw [List.getElem_map, List.getElem_range, session_eq_getElem h2]
  calc hub.size = (hub.entries.map Prod.snd).length := (List.length_map Prod.snd).symm
    _ = (List.range hub.sessions.length).countP fun n => !(hub.session n).isDestroyed := by
        rw [(h.perm_numbers hc).length_eq, List.countP_eq_length_filter]
    _ = ((List.range hub.sessions.length).map hub.session).countP fun s => !s.isDestroyed := by
        rw [List.countP_map]
        rfl
    _ = hub.sessions.countP fun s => !s.isDestroyed := by rw [hlist]

/-- The register of a hub is the set of the sessions that live, in every view of it. -/
structure IsFaithful (hub : Hub) : Prop where
  /-- The entries are the sessions that live, each under its context. -/
  entries : ∀ context n, (context, n) ∈ hub.entries ↔ hub.LivesIn n context
  /-- No two live in the same context. -/
  alone : ∀ context n m, hub.LivesIn n context → hub.LivesIn m context → n = m
  /-- They are found. -/
  find : ∀ context n, hub.find? context = some n ↔ hub.LivesIn n context
  /-- They are there. -/
  contains : ∀ context, hub.contains context = true ↔ ∃ n, hub.LivesIn n context
  /-- Their contexts are listed, -/
  contexts : ∀ context, context ∈ hub.contexts ↔ ∃ n, hub.LivesIn n context
  /-- once each. -/
  once : hub.contexts.Nodup
  /-- They are counted. -/
  size : hub.size = hub.sessions.countP fun s => !s.isDestroyed
  /-- Who asks for the session of a context gets one that lives, -/
  gets : ∀ context,
    (hub.findOrCreate context).1.LivesIn (hub.findOrCreate context).2 context
  /-- the one that there is, -/
  same : ∀ context n, hub.LivesIn n context → hub.findOrCreate context = (hub, n)
  /-- or a new one after all that were created before. -/
  new : ∀ context, (∀ n, ¬ hub.LivesIn n context) →
    (hub.findOrCreate context).2 = hub.sessions.length ∧
      (hub.findOrCreate context).1.sessions = hub.sessions ++ [.fresh context]
  /-- The end of all sessions empties the register, -/
  emptied : hub.shutdown.entries = []
  /-- and none lives after it. -/
  ended : ∀ n < hub.sessions.length, (hub.shutdown.session n).isDestroyed = true

lemma IsSound.isFaithful (h : hub.IsSound) (hc : hub.IsComplete) : hub.IsFaithful where
  entries := h.mem_entries_iff hc
  alone context n m hn hm :=
    h.eq_of_mem_entries ((h.mem_entries_iff hc context n).2 hn)
      ((h.mem_entries_iff hc context m).2 hm)
  find context n := (h.find?_eq_some_iff context n).trans (h.mem_entries_iff hc context n)
  contains context := by
    rw [Hub.contains, Option.isSome_iff_exists]
    exact exists_congr fun n =>
      (h.find?_eq_some_iff context n).trans (h.mem_entries_iff hc context n)
  contexts context := by
    rw [mem_contexts_iff]
    exact exists_congr fun n => h.mem_entries_iff hc context n
  once := h.nodup_contexts
  size := h.size_eq hc
  gets context := by
    rw [← (h.findOrCreate context).mem_entries_iff (hc.findOrCreate h context)]
    rcases hn : hub.find? context with _ | n
    · rw [h.findOrCreate_of_none hn]
      simp
    · rw [findOrCreate_of_some hn]
      exact (h.find?_eq_some_iff context n).1 hn
  same context n hn := by
    rw [← h.mem_entries_iff hc, ← h.find?_eq_some_iff] at hn
    exact findOrCreate_of_some hn
  new context hnone := by
    have hn : hub.find? context = none := by
      rw [h.find?_eq_none_iff]
      intro n hmem
      exact hnone n ((h.mem_entries_iff hc context n).1 hmem)
    rw [h.findOrCreate_of_none hn]
    exact ⟨rfl, rfl⟩
  emptied := rfl
  ended n hn := hc.isDestroyed_shutdown h hn

/-- A session that is found stays so whatever is done to others and whoever removes others. -/
lemma IsSound.find?_step_of_ne (h : hub.IsSound) {context : String} {n m : Nat}
    (hm : hub.find? context = some m) (hne : m ≠ n) (op : Session.Operation) (key : String) :
    (hub.step (.on n op)).find? context = some m ∧
      (hub.step (.remove key n)).find? context = some m := by
  have hmem := (h.find?_eq_some_iff context m).1 hm
  constructor
  · rw [(h.on n op).find?_eq_some_iff]
    exact h.mem_entries_on_of_ne op hmem hne
  · rw [(h.remove key n).find?_eq_some_iff, mem_entries_remove]
    refine ⟨hmem, fun heq => hne ?_⟩
    rw [Prod.mk.injEq] at heq
    exact heq.2

/-- **The register agrees with the sessions that live**, whatever was done to the hub and to any
session it ever gave out, as long as nobody removes an entry by hand.  If entries are removed by
hand, still nothing but the entry of the very session that ends or is removed leaves the register,
and a newer session of the same context stays. -/
theorem evolve_consistent (ops : List Operation) :
    let hub := empty.evolve ops
    ((∀ op ∈ ops, op.isRemoval = false) → hub.IsFaithful) ∧
    (∀ n op entry, entry ∈ hub.entries → entry ∉ (hub.step (.on n op)).entries →
      entry = ((hub.session n).context, n) ∧ (hub.session n).isDestroyed = false ∧
        ((hub.session n).step op).isDestroyed = true) ∧
    (∀ context n entry, entry ∈ hub.entries → entry ∉ (hub.step (.remove context n)).entries →
      entry = (context, n)) ∧
    (∀ context n m op key, hub.find? context = some m → m ≠ n →
      (hub.step (.on n op)).find? context = some m ∧
        (hub.step (.remove key n)).find? context = some m) := by
  intro hub
  have hsound : hub.IsSound := isSound_empty.evolve ops
  refine ⟨?_, ?_, ?_, ?_⟩
  · intro hops
    exact hsound.isFaithful (isComplete_empty.evolve isSound_empty ops hops)
  · intro n op entry hmem hgone
    rw [hsound.mem_entries_on n op entry, not_and_not_right] at hgone
    exact hgone hmem
  · intro context n entry hmem hgone
    rw [mem_entries_remove, not_and_not_right] at hgone
    exact hgone hmem
  · intro context n m op key hm hne
    exact hsound.find?_step_of_ne hm hne op key

end SharedTerminal.Hub
