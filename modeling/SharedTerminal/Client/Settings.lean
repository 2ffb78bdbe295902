import SharedTerminal.Client.Error
import SharedTerminal.Endpoint
import SharedTerminal.Url

/-!
# Where and how a client connects

A client is told the address of the daemon, the context, how output is to be framed, whether it
only watches, and how long it waits for the session to be ready.  `Settings.check` finds out
whether that makes sense, and the URLs of the two connections are built from the address and the
paths of the endpoints.
-/

namespace SharedTerminal.Client

/-- Where and how a client connects. -/
structure Settings where
  /-- The address of the daemon. -/
  base : String
  /-- The context of the session. -/
  context : String
  /-- How output is framed. -/
  mode : Mode
  /-- Whether the client only watches. -/
  readOnly : Bool
  /-- How long the client waits for the session to be ready. -/
  readyTimeout : Duration
deriving DecidableEq, Repr

namespace Settings

/-- How long a client waits if it is not told. -/
def defaultTimeout : Duration := .ofSeconds 10

/-- Whether a context can be told from the rest of a path. -/
def isAddressable (context : String) : Bool :=
  !context.toList.contains '/' && context.toList != Endpoint.readOnlySegment

/-- Checks the settings and gives the address of the daemon. -/
def check (s : Settings) : Except Error Url := do
  match Url.parse s.base with
  | .error e => throw (.invalidSettings ("base URL " ++ s.base ++ ": " ++ e.message))
  | .ok parsed =>
    if parsed.scheme ∉ ["ws", "wss"] then
      throw (.invalidSettings ("base URL must use ws or wss, got " ++ parsed.scheme))
    match parsed with
    | .other _ => throw (.invalidSettings ("base URL has no host: " ++ s.base))
    | .known url =>
      if !isAddressable s.context then
        throw (.invalidSettings
          ("context cannot be used in a path: " ++ Quoted.quote s.context))
      if s.readyTimeout.isZero then
        throw (.invalidSettings "ready timeout must be positive")
      return url

/-- The endpoint of the command connection. -/
def commandEndpoint (s : Settings) : Endpoint := .command s.context s.mode s.readOnly

/-- The endpoint of the status connection. -/
def statusEndpoint (s : Settings) : Endpoint := .status s.context

/-- The URL of an endpoint at the daemon. -/
def urlOf (s : Settings) (e : Endpoint) : Except Error Url := do
  return (← s.check).withPath e.pathChars

/-- The URL of the command connection. -/
def commandUrl (s : Settings) : Except Error Url := s.urlOf s.commandEndpoint

/-- The URL of the status connection. -/
def statusUrl (s : Settings) : Except Error Url := s.urlOf s.statusEndpoint

end Settings

end SharedTerminal.Client
