import SharedTerminal.Text.Quoted

/-!
# Why a session refuses

The reasons for which an operation on a session fails, and their wording.
-/

namespace SharedTerminal.Session

/-- Why an operation on a session fails. -/
inductive Error where
  /-- Whoever asks does not drive the session of a context. -/
  | noDriver (context : String)
  /-- The session of a context has ended. -/
  | destroyed (context : String)
  /-- A channel takes nothing more. -/
  | channelClosed (id : String)
  /-- The engine failed. -/
  | engine (reason : String)
  /-- A file could not be used. -/
  | io (reason : String)
deriving DecidableEq, Repr

/-- The text of an error. -/
def Error.message : Error → String
  | noDriver context => "no open driver connection in context " ++ Quoted.quote context
  | destroyed context => "session destroyed in context " ++ Quoted.quote context
  | channelClosed id => "output channel closed: " ++ id
  | engine reason => "process engine failure: " ++ reason
  | io reason => "I/O error: " ++ reason

end SharedTerminal.Session
