import SharedTerminal.Proofs.Hub.Register

/-!
# An engine that cannot be started

The first driver of a session starts its engine.  If that fails the driver is refused and the
session asks itself whether it goes on, like after any departure.  There is no driver then, so it
ends just if no command runs (`IsSound.failed_start`): everyone is let go, the register forgets the
session, and whoever asks for the context gets another one.  But a change of status can be announced
to a session whose engine was never started, and one that was told of a running command outlives the
failure.  Nothing at all has changed after it then.

The main statement is `failed_start_ends_idle_session`.
-/

namespace SharedTerminal

namespace Session

variable {s : Session} {given : Bool} {c : Channel} {startup : Startup} {reason : String}

/-- The start of the engine fails just where a session that goes on never had a driver. -/
lemma attachDriver_eq_error_iff (h : s.IsSound given) :
    (s.attachDriver c startup).2 = .error (.engine reason) ↔
      s.isDestroyed = false ∧ s.lifecycle.driver = .never ∧
        startup.outcome = .error (.engine reason) := by
  rw [h.isDestroyed_eq]
  rcases hd : s.lifecycle.destroyed with _ | _
  · rw [attachDriver_eq hd]
    rcases s.lifecycle.driver with _ | _ | _
    · rcases startup.outcome with e | u <;> simp
    · simp
    · simp
  · simp [attachDriver, hd]

/-- After a failed start a session is settled, and an engine there was not. -/
lemma IsSound.failed_start (h : s.IsSound given)
    (hfail : (s.attachDriver c startup).2 = .error (.engine reason)) :
    s.process = none ∧ s.step (.attachDriver c startup) =
      if s.isActive then s
      else { s with lifecycle := { s.lifecycle with destroyed := true } }.dismantle := by
  obtain ⟨hlive, hnever, hout⟩ := (attachDriver_eq_error_iff h).1 hfail
  have hopen := h.isOpen hlive
  have hstep : s.step (.attachDriver c startup) = s.settled := by
    have heq := attachDriver_eq hopen.live c startup
    rw [hnever, hout] at heq
    exact congrArg Prod.fst heq
  refine ⟨?_, ?_⟩
  · rw [← Option.not_isSome_iff_eq_none, hopen.engaged, hnever]
    decide
  · rw [hstep, settled, Lifecycle.isAbandoned, hnever, isActive]
    cases s.lifecycle.active <;> rfl

end Session

namespace Hub

open Session (Channel Startup Seat)

variable {hub : Hub} {n : Nat} {c : Channel} {startup : Startup} {reason : String}

/-- Whoever asks for the context of a session that has ended gets another one. -/
lemma IsSound.findOrCreate_ne (h : hub.IsSound) (hd : (hub.session n).isDestroyed = true)
    (context : String) : (hub.findOrCreate context).2 ≠ n ∨ hub.sessions.length ≤ n := by
  rcases hfound : hub.find? context with _ | m
  · rw [h.findOrCreate_of_none hfound]
    by_cases hn : n < hub.sessions.length
    · exact Or.inl (by simp; omega)
    · exact Or.inr (by omega)
  · rw [findOrCreate_of_some hfound]
    refine Or.inl ?_
    rintro rfl
    have hlive := h.live context m ((h.find?_eq_some_iff context m).1 hfound)
    exact absurd (hlive.symm.trans hd) (by decide)

/-- **A failed start ends a session in which no command runs, and no other.**  After any run of a
hub, whoever is refused because the engine cannot be started was the first to ask to drive a session
that goes on.  If no command runs there the session has ended after that: it has said its farewell,
for the only time; all its channels and listeners are let go; it is off the register; and whoever
asks for its context gets another session, a new one if this one was registered.  If a command runs
nothing has changed. -/
theorem failed_start_ends_idle_session (ops : List Operation) :
    let hub := empty.evolve ops
    ∀ n c startup reason, n < hub.sessions.length →
      let s := hub.session n
      let next := hub.step (.on n (.attachDriver c startup))
      ((s.attachDriver c startup).2 = .error (.engine reason) ↔ s.isDestroyed = false ∧
        s.lifecycle.driver = .never ∧ startup.outcome = .error (.engine reason)) ∧
      ((s.attachDriver c startup).2 = .error (.engine reason) →
        (s.isActive = false →
          (next.session n).isDestroyed = true ∧
          s.farewells = 0 ∧ (next.session n).farewells = 1 ∧
          (next.session n).seats = s.seats.map Seat.release ∧
          (next.session n).listeners = s.listeners.clear ∧
          (s.context, n) ∉ next.entries ∧
          (next.findOrCreate s.context).2 ≠ n ∧
          ((s.context, n) ∈ hub.entries →
            (next.findOrCreate s.context).2 = hub.sessions.length)) ∧
        (s.isActive = true → next = hub)) := by
  intro hub n c startup reason hn s next
  have hhub : hub.IsSound := isSound_empty.evolve ops
  have hs : s.IsSound true := hhub.sessions n
  refine ⟨Session.attachDriver_eq_error_iff hs, fun hfail => ?_⟩
  obtain ⟨hlive, -, -⟩ := (Session.attachDriver_eq_error_iff hs).1 hfail
  have hstep := (hs.failed_start hfail).2
  have hsession : next.session n = s.step (.attachDriver c startup) := session_on hn _
  refine ⟨fun hidle => ?_, fun hactive => ?_⟩
  · rw [hidle, if_neg Bool.false_ne_true] at hstep
    have hended : (next.session n).isDestroyed = true := by rw [hsession, hstep]; rfl
    have hnext : next.IsSound := hhub.on n _
    have hgone : (s.context, n) ∉ next.entries := by
      intro hmem
      have hstill := hnext.live s.context n hmem
      exact absurd (hstill.symm.trans hended) (by decide)
    have hlength : next.sessions.length = hub.sessions.length := length_on hub n _
    refine ⟨hended, (hs.isOpen hlive).silent, ((hnext.sessions n).isClosed hended).once,
      by rw [hsession, hstep]; rfl, by rw [hsession, hstep]; rfl, hgone,
      (hnext.findOrCreate_ne hended s.context).resolve_right (by omega), fun hmem => ?_⟩
    -- The context had one entry, and that is gone.
    have hnone : next.find? s.context = none := by
      rw [hnext.find?_eq_none_iff]
      intro m hm
      have hbefore := ((hhub.mem_entries_on n _ _).1 hm).1
      obtain rfl := hhub.eq_of_mem_entries hmem hbefore
      exact hgone hm
    rw [hnext.findOrCreate_of_none hnone, hlength]
  · rw [hactive, if_pos rfl] at hstep
    change hub.put n (s.step (.attachDriver c startup)) = hub
    rw [hstep]
    exact put_session hub n

/-- A session that was told of a running command outlives the failure to start its engine. -/
theorem not_forall_failed_start_isDestroyed :
    ¬ ∀ (ops : List Operation) (n : Nat) (c : Channel) (startup : Startup) (reason : String),
      n < (empty.evolve ops).sessions.length →
      (((empty.evolve ops).session n).attachDriver c startup).2 = .error (.engine reason) →
        (((empty.evolve ops).step (.on n (.attachDriver c startup))).session n).isDestroyed =
          true := by
  intro h
  have hended := h [.findOrCreate "work", .on 0 (.changeStatus ⟨"1", .new, .running, "work"⟩)] 0
    (.fresh "a" 4) ⟨.error (.engine "no shell"), none⟩ "no shell" (by decide) (by decide)
  exact absurd hended (by decide)

end Hub

end SharedTerminal
