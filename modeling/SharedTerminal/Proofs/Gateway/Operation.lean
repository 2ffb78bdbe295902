import SharedTerminal.Gateway
import SharedTerminal.Proofs.Hub.Register
import SharedTerminal.Proofs.Session.Keeping
import Mathlib.Data.List.Induction

/-!
# What happens at a gateway

Connections come and go, engines report, and what was sent is taken or not: `Operation` names what
can happen, one whole step at a time, and `evolve` carries out a list of such steps.  Whether an
engine could be started is told for each arrival anew.

For the sessions, each step is at most one operation on one of them, after one was found or created
if somebody arrives: `hub_release`, `hub_pump` and `attachDriver_eq`.  Who is still there can be told
from the steps: `listensTo_evolve_idle`.
-/

namespace SharedTerminal.Gateway

open Session (Channel)

variable {g : Gateway}

/-- What can happen at a gateway. -/
inductive Operation where
  /-- A visitor asks for a path.  `starts` tells whether an engine could be started now. -/
  | arrive (path : String) (starts : Except Session.Error Unit) (logCapacity : Option Nat)
    (capacity : Nat)
  /-- The connection of the visitor with a number ends. -/
  | depart (k : Nat)
  /-- The engine of a session reports. -/
  | pump (n : Nat) (event : Engine.Event)
  /-- What is in transit in a session moves on. -/
  | transit (n : Nat) (op : Session.Operation) (hq : op.isQuiet = true)

/-- The gateway after a step. -/
def step (g : Gateway) : Operation → Gateway
  | .arrive path starts logCapacity capacity =>
    let settings : Settings := ⟨⟨starts.map fun _ => [], logCapacity⟩, capacity⟩
    match { g with settings := settings }.welcome path with
    | .ok (next, _) => next
    | .error _ => g
  | .depart k => g.depart k
  | .pump n event =>
    if (g.hub.session n).process.isSome then
      { g with hub := g.hub.modify n (·.handle event) }
    else g
  | .transit n op _ => { g with hub := g.hub.step (.on n op) }

/-- The gateway after a list of steps. -/
def evolve (g : Gateway) (ops : List Operation) : Gateway := ops.foldl step g

@[simp] lemma evolve_nil (g : Gateway) : g.evolve [] = g := rfl

@[simp] lemma evolve_cons (g : Gateway) (op : Operation) (ops : List Operation) :
    g.evolve (op :: ops) = (g.step op).evolve ops := rfl

/-- The status that the engine of a session reports in a step. -/
def reported (n : Nat) (g : Gateway) : Operation → Option Task.Status
  | .pump m (.status _ _ after) =>
    if m = n ∧ (g.hub.session m).process.isSome then some after else none
  | _ => none

/-- The statuses that the engine of a session reports in a list of steps, in order. -/
def reportedIn (n : Nat) (g : Gateway) : List Operation → List Task.Status
  | [] => []
  | op :: ops => (reported n g op).toList ++ reportedIn n (g.step op) ops

/-! ## Visitors -/

/-- The session that a visitor came to. -/
def Purpose.session? : Purpose → Option Nat
  | .terminal n .. => some n
  | .news n _ => some n
  | .nothing _ => none

/-- Whether a visitor came to drive and does. -/
def Purpose.drives : Purpose → Bool
  | .terminal _ _ drives _ => drives
  | _ => false

/-- A visitor is still there, and it came to a session. -/
def Visit.IsAt (n : Nat) (visit : Visit) : Prop :=
  visit.listening = true ∧ visit.purpose.session? = some n

/-- What the gateway does to the session of a visitor that leaves. -/
def Purpose.leaving (k : Nat) : Purpose → Session.Operation
  | .terminal _ _ true _ => .detachDriver (channelName k)
  | .terminal _ _ false _ => .detachObserver (channelName k)
  | .news _ listener => .unsubscribe listener
  | .nothing _ => .detachObserver (channelName k)

lemma change?_leaving (k : Nat) (purpose : Purpose) : (purpose.leaving k).change? = none := by
  rcases purpose with ⟨n, seat, _ | _, mode⟩ | ⟨n, listener⟩ | reason <;> rfl

lemma leaving_ne_attachDriver (k : Nat) (purpose : Purpose) (c : Channel)
    (startup : Session.Startup) : purpose.leaving k ≠ .attachDriver c startup := by
  rcases purpose with ⟨n, seat, _ | _, mode⟩ | ⟨n, listener⟩ | reason <;> simp [Purpose.leaving]

/-- No two visitors have the same name. -/
lemma channelName_inj {j k : Nat} : channelName j = channelName k ↔ j = k := by
  refine ⟨fun h => ?_, congrArg channelName⟩
  have hdigits : Nat.toDigits 10 j = Nat.toDigits 10 k := by
    simpa [channelName, Nat.toString_eq_ofList_toDigits] using congrArg String.toList h
  rw [← Nat.ofDigitChars_ten_toDigits (n := j), hdigits, Nat.ofDigitChars_ten_toDigits]

/-- A visitor that leaves is one operation on its session. -/
lemma hub_release (g : Gateway) (k : Nat) {purpose : Purpose} {n : Nat}
    (hn : purpose.session? = some n) :
    g.release k purpose = { g with hub := g.hub.step (.on n (purpose.leaving k)) } := by
  cases purpose with
  | terminal m seat drives mode =>
    cases hn
    cases drives <;> rfl
  | news m listener =>
    cases hn
    rfl
  | nothing reason => simp [Purpose.session?] at hn

lemma release_of_session?_eq_none (g : Gateway) (k : Nat) {purpose : Purpose}
    (hn : purpose.session? = none) : g.release k purpose = g := by
  cases purpose with
  | nothing reason => rfl
  | _ => simp [Purpose.session?] at hn

lemma visits_release (g : Gateway) (k : Nat) (purpose : Purpose) :
    (g.release k purpose).visits = g.visits := by
  rcases purpose with ⟨n, seat, _ | _, mode⟩ | ⟨n, listener⟩ | reason <;> rfl

/-- A report is one operation on the session of the engine. -/
lemma hub_pump (hub : Hub) (n : Nat) (event : Engine.Event) :
    hub.modify n (·.handle event) =
      hub.step (.on n (.ofEvent (hub.session n).context event)) := by
  rw [Hub.modify, Session.handle_eq_step]
  rfl

/-! ## Who is still there -/

variable {k : Nat}

/-- Whether the gateway listens to the visitor with a number. -/
def listensTo (g : Gateway) (k : Nat) : Bool := g.visits[k]?.any Visit.listening

/-- Whether a visitor leaves in a step. -/
def Operation.isDepartureOf (k : Nat) : Operation → Bool
  | .depart j => j = k
  | _ => false

/-- Whether the connection of the visitor with a number ends in a list of steps, once the visitor is
there. -/
def HasLeft (g : Gateway) (k : Nat) (ops : List Operation) : Prop :=
  ∃ before after, ops = before ++ .depart k :: after ∧ k < (g.evolve before).visits.length

lemma evolve_concat (g : Gateway) (ops : List Operation) (op : Operation) :
    g.evolve (ops ++ [op]) = (g.evolve ops).step op := by
  simp [evolve]

lemma listensTo_depart (g : Gateway) (j k : Nat) :
    (g.depart j).listensTo k = (g.listensTo k && j ≠ k) := by
  by_cases hjk : j = k
  · subst hjk
    rcases hj : g.visits[j]? with _ | visit
    · simp [depart, listensTo, hj]
    · rcases hl : visit.listening with _ | _
      · simp [depart, listensTo, hj, hl]
      · simp [depart, listensTo, hj, hl, modify, visits_release]
  · rcases hj : g.visits[j]? with _ | visit
    · simp [depart, hj, hjk]
    · rcases hl : visit.listening with _ | _
      · simp [depart, hj, hl, hjk]
      · simp [depart, listensTo, hj, hl, modify, visits_release, hjk]

lemma length_visits_depart (g : Gateway) (k : Nat) :
    (g.depart k).visits.length = g.visits.length := by
  rw [depart]
  split
  · rfl
  · split
    · simp [modify, visits_release]
    · rfl

/-- Whoever arrives is there, and listened to, unless the path leads nowhere. -/
lemma visits_arrive (g : Gateway) (path : String) (starts : Except Session.Error Unit)
    (logCapacity : Option Nat) (capacity : Nat) :
    (g.step (.arrive path starts logCapacity capacity)).visits = g.visits ∨
      ∃ purpose, (g.step (.arrive path starts logCapacity capacity)).visits =
        g.visits ++ [⟨purpose, true, true⟩] := by
  rcases he : Endpoint.parse path with err | e
  · left
    simp only [Gateway.step, welcome, he]
  · right
    simp only [Gateway.step, welcome, he, enroll]
    exact ⟨_, rfl⟩

/-- A step brings one visitor more, who is listened to, or nobody. -/
lemma visits_step (g : Gateway) (op : Operation) :
    (∃ purpose, (g.step op).visits = g.visits ++ [⟨purpose, true, true⟩]) ∨
      (g.step op).visits.length = g.visits.length := by
  cases op with
  | arrive path starts logCapacity capacity =>
    exact (visits_arrive g path starts logCapacity capacity).symm.imp_right (congrArg List.length)
  | depart j => exact Or.inr (length_visits_depart g j)
  | pump n event =>
    simp only [Gateway.step]
    split <;> exact Or.inr rfl
  | transit n op hq => exact Or.inr rfl

lemma length_visits_step (g : Gateway) (op : Operation) :
    g.visits.length ≤ (g.step op).visits.length := by
  rcases visits_step g op with ⟨purpose, h⟩ | h
  · rw [h, List.length_append]
    exact Nat.le_add_right _ _
  · exact Nat.le_of_eq h.symm

lemma listensTo_step (hk : k < g.visits.length) (op : Operation) :
    (g.step op).listensTo k = (g.listensTo k && !op.isDepartureOf k) := by
  cases op with
  | arrive path starts logCapacity capacity =>
    rcases visits_arrive g path starts logCapacity capacity with h | ⟨purpose, h⟩
    · simp [listensTo, h, Operation.isDepartureOf]
    · simp [listensTo, h, List.getElem?_append_left hk, Operation.isDepartureOf]
  | depart j => simp [Gateway.step, listensTo_depart, Operation.isDepartureOf]
  | pump n event =>
    simp only [Gateway.step, Operation.isDepartureOf]
    split <;> simp [listensTo]
  | transit n op hq => simp [Gateway.step, listensTo, Operation.isDepartureOf]

/-- Whoever is new after a step is listened to. -/
lemma listensTo_step_of_new (hk : g.visits.length ≤ k) (op : Operation) :
    (g.step op).listensTo k = true ↔ k < (g.step op).visits.length := by
  rcases visits_step g op with ⟨purpose, h⟩ | h
  · rw [listensTo, h, List.length_append, List.length_singleton]
    rcases Nat.eq_or_lt_of_le hk with rfl | hlt
    · simp
    · rw [List.getElem?_eq_none (by simpa using Nat.succ_le_of_lt hlt)]
      simpa using Nat.succ_le_of_lt hlt
  · rw [listensTo, List.getElem?_eq_none (by rw [h]; exact hk), h]
    simpa using hk

lemma hasLeft_concat (g : Gateway) (k : Nat) (ops : List Operation) (op : Operation) :
    g.HasLeft k (ops ++ [op]) ↔
      g.HasLeft k ops ∨ op = .depart k ∧ k < (g.evolve ops).visits.length := by
  constructor
  · rintro ⟨before, after, heq, hk⟩
    rcases List.eq_nil_or_concat after with rfl | ⟨after, last, rfl⟩
    · obtain ⟨rfl, hop⟩ := List.append_inj' heq rfl
      exact Or.inr ⟨(List.cons.inj hop).1, hk⟩
    · rw [List.concat_eq_append, ← List.cons_append, ← List.append_assoc] at heq
      exact Or.inl ⟨before, after, (List.append_inj' heq rfl).1, hk⟩
  · rintro (⟨before, after, rfl, hk⟩ | ⟨rfl, hk⟩)
    · exact ⟨before, after ++ [op], by simp, hk⟩
    · exact ⟨ops, [], rfl, hk⟩

/-- Whoever leaves was there. -/
lemma HasLeft.lt_length {ops : List Operation} (h : g.HasLeft k ops) :
    k < (g.evolve ops).visits.length := by
  induction ops using List.reverseRecOn with
  | nil =>
    obtain ⟨before, after, heq, -⟩ := h
    simp at heq
  | append_singleton ops op ih =>
    have hlength := length_visits_step (g.evolve ops) op
    rw [evolve_concat]
    rcases (hasLeft_concat g k ops op).1 h with hleft | ⟨-, hk⟩
    · exact Nat.lt_of_lt_of_le (ih hleft) hlength
    · exact Nat.lt_of_lt_of_le hk hlength

/-- **Whoever came and has not left is listened to.** -/
theorem listensTo_evolve_idle (settings : Settings) (ops : List Operation) (k : Nat) :
    ((idle settings).evolve ops).listensTo k = true ↔
      k < ((idle settings).evolve ops).visits.length ∧ ¬ (idle settings).HasLeft k ops := by
  induction ops using List.reverseRecOn with
  | nil => simp [idle, listensTo]
  | append_singleton ops op ih =>
    rw [evolve_concat, hasLeft_concat]
    by_cases hk : k < ((idle settings).evolve ops).visits.length
    · have hnext := Nat.lt_of_lt_of_le hk (length_visits_step ((idle settings).evolve ops) op)
      have hdeparts : op.isDepartureOf k = true ↔ op = .depart k := by
        cases op <;> simp [Operation.isDepartureOf]
      rw [listensTo_step hk, Bool.and_eq_true_iff, ih, Bool.not_eq_true', ← Bool.not_eq_true,
        hdeparts]
      simp [hk, hnext]
    · rw [listensTo_step_of_new (Nat.le_of_not_lt hk)]
      have hnever : ¬ (idle settings).HasLeft k ops := fun h => hk h.lt_length
      simp [hk, hnever]

/-! ## Arrivals -/

/-- Apart from its files and engines, a hub in which someone asks to drive a session changes like
the session. -/
lemma attachDriver_eq (hub : Hub) {settings : Hub.Settings}
    (hstart : ∀ events, settings.start = .ok events → events = []) (n : Nat) (c : Channel) :
    ∃ processes files,
      hub.attachDriver settings n c =
        ({ hub.step (.on n (.attachDriver c settings.startup)) with
            processes := processes, files := files },
          ((hub.session n).attachDriver c settings.startup).2) := by
  have henroll : ∀ other : Hub, ∃ processes files,
      other.enroll settings n = { other with processes := processes, files := files } := by
    intro other
    rcases hs : settings.start with e | events
    · simp only [Hub.enroll, hs]
      split
      · rw [Hub.touch]
        split <;> exact ⟨_, _, rfl⟩
      · exact ⟨_, _, rfl⟩
    · obtain rfl := hstart events hs
      simp only [Hub.enroll, hs, List.foldl_nil]
      split
      · rw [Hub.touch]
        split <;> exact ⟨_, _, rfl⟩
      · exact ⟨_, _, rfl⟩
  have hput : hub.put n ((hub.session n).attachDriver c settings.startup).1 =
      hub.step (.on n (.attachDriver c settings.startup)) := rfl
  simp only [Hub.attachDriver, hput]
  split
  · obtain ⟨processes, files, heq⟩ :=
      henroll (hub.step (.on n (.attachDriver c settings.startup)))
    exact ⟨processes, files, by rw [heq]⟩
  · exact ⟨_, _, rfl⟩

end SharedTerminal.Gateway
