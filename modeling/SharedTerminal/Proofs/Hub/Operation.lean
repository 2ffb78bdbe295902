import SharedTerminal.Hub
import SharedTerminal.Proofs.Session.Ending

/-!
# Operations on a hub

Whoever was given a session can go on to use it, also after it has ended and another one has taken
its place.  So an operation on a hub is either one on its register or one on any of its sessions,
given by number.  `evolve` carries out a list of them.

In the hub, an operation on a session is the session's own `step`, followed by what the register
makes of its farewell: `sessions_on` and `entries_on`.
-/

namespace SharedTerminal.Hub

/-- What can be done to a hub. -/
inductive Operation where
  /-- The session of a context is asked for, and created if there is none that lives. -/
  | findOrCreate (context : String)
  /-- Something is done to the session with a number. -/
  | on (n : Nat) (op : Session.Operation)
  /-- All registered sessions are told to end. -/
  | shutdown
  /-- A session is taken off the register under a context. -/
  | remove (context : String) (n : Nat)

/-- Whether an operation takes a session off the register by hand. -/
def Operation.isRemoval : Operation → Bool
  | .remove .. => true
  | _ => false

/-- The hub after an operation. -/
def step (hub : Hub) : Operation → Hub
  | .findOrCreate context => (hub.findOrCreate context).1
  | .on n op => (hub.run n (·.perform op)).1
  | .shutdown => hub.shutdown
  | .remove context n => (hub.remove context n).1

/-- The hub after a list of operations. -/
def evolve (hub : Hub) (ops : List Operation) : Hub := ops.foldl step hub

@[simp] lemma evolve_cons (hub : Hub) (op : Operation) (ops : List Operation) :
    hub.evolve (op :: ops) = (hub.step op).evolve ops := rfl

/-! ## Sessions by number -/

variable {hub : Hub}

lemma session_eq_getElem {n : Nat} (hn : n < hub.sessions.length) :
    hub.session n = hub.sessions[n] := by
  simp [session, hn]

lemma session_of_le {n : Nat} (hn : hub.sessions.length ≤ n) : hub.session n = .fresh "" := by
  simp [session, hn]

/-! ## One session of a hub -/

/-- A session that stays as it is leaves the hub as it is. -/
lemma put_session (hub : Hub) (n : Nat) : hub.put n (hub.session n) = hub := by
  have hsame : hub.sessions.set n (hub.session n) = hub.sessions := by
    apply List.ext_getElem?
    intro m
    rw [List.getElem?_set]
    split
    · next hm =>
      subst hm
      split
      · next hlt => rw [session_eq_getElem hlt, List.getElem?_eq_getElem hlt]
      · next hle => rw [List.getElem?_eq_none (by omega)]
    · rfl
  simp [put, hsame]

lemma sessions_on (hub : Hub) (n : Nat) (op : Session.Operation) :
    (hub.step (.on n op)).sessions = hub.sessions.set n ((hub.session n).step op) := by
  change (hub.put n ((hub.session n).step op)).sessions = _
  unfold put
  split <;> rfl

@[simp] lemma length_on (hub : Hub) (n : Nat) (op : Session.Operation) :
    (hub.step (.on n op)).sessions.length = hub.sessions.length := by
  simp [sessions_on]

lemma entries_on (hub : Hub) (n : Nat) (op : Session.Operation) :
    (hub.step (.on n op)).entries =
      if (hub.session n).farewells < ((hub.session n).step op).farewells then
        hub.entries.filter (· ≠ (((hub.session n).step op).context, n))
      else hub.entries := by
  change (hub.put n ((hub.session n).step op)).entries = _
  unfold put
  split <;> rfl

lemma processes_on (hub : Hub) (n : Nat) (op : Session.Operation) :
    (hub.step (.on n op)).processes = hub.processes := by
  change (hub.put n ((hub.session n).step op)).processes = _
  unfold put
  split <;> rfl

lemma files_on (hub : Hub) (n : Nat) (op : Session.Operation) :
    (hub.step (.on n op)).files = hub.files := by
  change (hub.put n ((hub.session n).step op)).files = _
  unfold put
  split <;> rfl

lemma session_on {n : Nat} (hn : n < hub.sessions.length) (op : Session.Operation) :
    (hub.step (.on n op)).session n = (hub.session n).step op := by
  simp [session, sessions_on, hn]

lemma session_on_of_ne {n m : Nat} (hne : m ≠ n) (op : Session.Operation) :
    (hub.step (.on n op)).session m = hub.session m := by
  simp [session, sessions_on, List.getD_eq_getElem?_getD, List.getElem?_set_ne hne.symm]

/-- Ending all registered sessions is ending one after the other, and emptying the register. -/
lemma shutdown_eq (hub : Hub) :
    hub.shutdown =
      { hub.evolve (hub.entries.map fun entry => .on entry.2 .shutdown) with entries := [] } := by
  rw [shutdown, evolve, List.foldl_map]
  rfl

end SharedTerminal.Hub
