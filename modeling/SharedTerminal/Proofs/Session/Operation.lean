import SharedTerminal.Session
import Mathlib.Data.List.Basic
import Mathlib.Tactic.Common

/-!
# Operations on a session

Everything that can happen to one session is an `Operation`: the calls of those who attach, type
and listen, the reports of its engine, and what the consumers on the other side of the channels
do.  `perform` carries out one of them and gives the answer, `run` carries out a list of them from
the first to the last.  What holds of every session is stated over `run` from a new one.
-/

namespace SharedTerminal.Session

/-- What can be done to a session. -/
inductive Operation where
  /-- A channel asks to drive. -/
  | attachDriver (c : Channel) (startup : Startup)
  /-- A channel asks to observe. -/
  | attachObserver (c : Channel)
  /-- The driver with a name leaves. -/
  | detachDriver (name : String)
  /-- The observer with a name leaves. -/
  | detachObserver (name : String)
  /-- A chunk of output is written. -/
  | write (chunk : Bytes)
  /-- A task changes its status. -/
  | changeStatus (change : Task.Change)
  /-- The channel with a name types. -/
  | submit (name : String) (bytes : Bytes)
  /-- The channel with a name gives the size of its terminal. -/
  | resize (name : String) (cols rows : UInt16)
  /-- A listener subscribes. -/
  | subscribe
  /-- The listener with a number leaves. -/
  | unsubscribe (n : Nat)
  /-- The session is told to end. -/
  | shutdown
  /-- The consumer on a seat takes chunks, at most `max` of them if there is a limit. -/
  | receive (seat : Nat) (max : Option Nat)
  /-- The consumer on a seat goes away. -/
  | dropReceiver (seat : Nat)
  /-- The listener with a number reads. -/
  | listen (n : Nat)
  /-- The listener with a number stops reading. -/
  | dropListener (n : Nat)
  /-- The engine takes its commands. -/
  | takeCommands
  /-- The engine goes away. -/
  | dropProcess
  /-- The log writer catches up. -/
  | flushLog

/-- What an operation answers. -/
inductive Answer where
  /-- Of a channel that asks to drive. -/
  | attached (outcome : Except Error Attachment)
  /-- Of what succeeds or is refused. -/
  | done (outcome : Except Error Unit)
  /-- Whether there was something to do it to. -/
  | was (flag : Bool)
  /-- The number of a listener. -/
  | number (outcome : Except Error Nat)
  /-- What a consumer found in its queue. -/
  | received (found : Option Received)
  /-- What a listener found in its queue. -/
  | heard (found : Option Heard)
  /-- What the engine found in its queue. -/
  | commands (found : Option (List Engine.Command))
  /-- What the log writer found in its queue. -/
  | logged (bytes : Bytes)
  /-- Nothing. -/
  | nothing

/-- Carries out an operation and gives the answer. -/
def perform (s : Session) : Operation → Session × Answer
  | .attachDriver c startup => (s.attachDriver c startup).map id .attached
  | .attachObserver c => (s.attachObserver c).map id .done
  | .detachDriver name => (s.detachDriver name).map id .was
  | .detachObserver name => (s.detachObserver name).map id .was
  | .write chunk => (s.write chunk, .nothing)
  | .changeStatus change => (s.changeStatus change).map id .done
  | .submit name bytes => (s.submit name bytes).map id .done
  | .resize name cols rows => (s.resize name cols rows).map id .done
  | .subscribe => s.subscribe.map id .number
  | .unsubscribe n => (s.unsubscribe n).map id .was
  | .shutdown => (s.shutdown, .nothing)
  | .receive seat max => (s.receive seat max).map id .received
  | .dropReceiver seat => (s.dropReceiver seat).map id .was
  | .listen n => (s.listen n).map id .heard
  | .dropListener n => (s.dropListener n).map id .was
  | .takeCommands => s.takeCommands.map id .commands
  | .dropProcess => s.dropProcess.map id .was
  | .flushLog => s.flushLog.map id .logged

/-- The session after an operation. -/
def step (s : Session) (op : Operation) : Session := (s.perform op).1

/-- The session after a list of operations. -/
def run (s : Session) (ops : List Operation) : Session := ops.foldl step s

@[simp] lemma run_nil (s : Session) : s.run [] = s := rfl

@[simp] lemma run_cons (s : Session) (op : Operation) (ops : List Operation) :
    s.run (op :: ops) = (s.step op).run ops := rfl

lemma run_append (s : Session) (ops more : List Operation) :
    s.run (ops ++ more) = (s.run ops).run more :=
  List.foldl_append

/-- The operation by which an engine event reaches a session. -/
def Operation.ofEvent (context : String) : Engine.Event → Operation
  | .output bytes => .write bytes
  | .status task before after => .changeStatus ⟨toString task, before, after, context⟩

/-- Taking an event from the engine is one of the operations. -/
lemma handle_eq_step (s : Session) (event : Engine.Event) :
    s.handle event = s.step (.ofEvent s.context event) := by
  cases event <;> rfl

end SharedTerminal.Session
