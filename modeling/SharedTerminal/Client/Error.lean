import SharedTerminal.Envelope
import SharedTerminal.Text.Duration

/-!
# Why a client fails

The reasons for which a bridge to a session cannot be opened or used, and their wording.
-/

namespace SharedTerminal.Client

/-- Why a client fails. -/
inductive Error where
  /-- The settings cannot be used. -/
  | invalidSettings (reason : String)
  /-- A connection cannot be opened or kept. -/
  | connection (reason : String)
  /-- The ready marker did not come within a time. -/
  | timeout (limit : Duration)
  /-- The session does not take commands. -/
  | notReady
  /-- The client only watches. -/
  | readOnly
  /-- A message or an address is wrong. -/
  | wire (error : WireError)
deriving DecidableEq, Repr

/-- The text of an error. -/
def Error.message : Error → String
  | invalidSettings reason => "invalid client configuration: " ++ reason
  | connection reason => "connection error: " ++ reason
  | timeout limit => "ready marker not received within " ++ limit.text
  | notReady => "session is not ready for commands"
  | readOnly => "bridge is attached read-only"
  | wire error => error.message

end SharedTerminal.Client
