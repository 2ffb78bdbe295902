import SharedTerminal.Task

/-!
# Listeners

Whoever wants to know how the tasks of a session fare subscribes to it.  Each listener has a queue
of its own, without a bound, that gets every change announced from then on.  A listener that stops
reading is found out, and forgotten, at the next announcement.

Listeners are numbered in the order in which they subscribe, and no number is given twice.
-/

namespace SharedTerminal.Session

/-- A listener, with what either side knows of it. -/
structure Listener where
  /-- The changes that were announced and not read. -/
  queue : List Task.Change
  /-- Whether the session still announces changes to it. -/
  registered : Bool
  /-- Whether it still reads. -/
  receiverHeld : Bool
deriving DecidableEq, Repr

namespace Listener

/-- A new listener. -/
def fresh : Listener := ⟨[], true, true⟩

/-- The listener after an announcement. -/
def hear (change : Task.Change) (l : Listener) : Listener :=
  if !l.registered then l
  else if l.receiverHeld then { l with queue := l.queue ++ [change] }
  else { l with registered := false }

/-- The listener, no longer told anything. -/
def forget (l : Listener) : Listener := { l with registered := false }

end Listener

/-- What a listener finds in its queue. -/
structure Heard where
  /-- The changes, in order. -/
  changes : List Task.Change
  /-- Whether nothing more can come. -/
  closed : Bool
deriving DecidableEq, Repr

/-- Every listener that ever subscribed, at the place of its number. -/
structure Listeners where
  /-- The listeners, in the order in which they subscribed. -/
  all : List Listener
deriving DecidableEq, Repr

namespace Listeners

/-- No listener. -/
def empty : Listeners := ⟨[]⟩

/-- How many listeners are registered. -/
def size (ls : Listeners) : Nat := ls.all.countP (·.registered)

/-- Registers a listener and gives its number. -/
def subscribe (ls : Listeners) : Listeners × Nat :=
  (⟨ls.all ++ [Listener.fresh]⟩, ls.all.length)

/-- Whether the listener with a number is registered. -/
def isRegistered (ls : Listeners) (n : Nat) : Bool :=
  match ls.all[n]? with
  | some l => l.registered
  | none => false

/-- Takes a listener off the register; the flag tells whether it was on it. -/
def unsubscribe (ls : Listeners) (n : Nat) : Listeners × Bool :=
  if ls.isRegistered n then (⟨ls.all.modify n Listener.forget⟩, true) else (ls, false)

/-- Announces a change, and counts those that heard it. -/
def broadcast (ls : Listeners) (change : Task.Change) : Listeners × Nat :=
  let ls' : Listeners := ⟨ls.all.map (Listener.hear change)⟩
  (ls', ls'.size)

/-- Takes every listener off the register. -/
def clear (ls : Listeners) : Listeners := ⟨ls.all.map Listener.forget⟩

/-- Whether the listener with a number still reads. -/
def isReading (ls : Listeners) (n : Nat) : Bool :=
  match ls.all[n]? with
  | some l => l.receiverHeld
  | none => false

/-- A listener reads everything that was announced to it, unless it stopped reading. -/
def receive (ls : Listeners) (n : Nat) : Listeners × Option Heard :=
  match ls.all[n]? with
  | some l =>
    if l.receiverHeld then
      (⟨ls.all.modify n fun l => { l with queue := [] }⟩, some ⟨l.queue, !l.registered⟩)
    else (ls, none)
  | none => (ls, none)

/-- A listener stops reading; the flag tells whether it was reading. -/
def dropReceiver (ls : Listeners) (n : Nat) : Listeners × Bool :=
  if ls.isReading n then
    (⟨ls.all.modify n fun l => { l with receiverHeld := false }⟩, true)
  else (ls, false)

end Listeners

end SharedTerminal.Session
