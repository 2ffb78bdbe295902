import SharedTerminal.Ip
import SharedTerminal.Machine
import SharedTerminal.Session.Channel
import SharedTerminal.Session.LogFile

/-!
# Configuration

What a daemon is configured with: where it listens and what it logs, and how sessions are run.
Values come from defaults, a file, the environment and the command line, in this order, and are
checked when all are known.
-/

namespace SharedTerminal

/-- The variables of the environment that matter to a daemon. -/
structure Environment where
  /-- The address to listen on. -/
  bindAddress : Option String
  /-- The port to listen on. -/
  port : Option String
  /-- What is logged. -/
  logLevel : Option String
  /-- The shell of the user. -/
  shell : Option String
  /-- The home directory of the user. -/
  home : Option String
  /-- The directory for configuration files. -/
  configHome : Option String
deriving DecidableEq, Repr

namespace Environment

/-- The environment in which variables have the values that a function gives. -/
def ofVariables (value : String → Option String) : Environment :=
  { bindAddress := value "TERMBRIDGE_BIND_ADDRESS"
    port := value "TERMBRIDGE_PORT"
    logLevel := value "TERMBRIDGE_LOG_LEVEL"
    shell := value "SHELL"
    home := value "HOME"
    configHome := value "XDG_CONFIG_HOME" }

/-- The names of the variables that matter. -/
def names : List String :=
  ["TERMBRIDGE_BIND_ADDRESS", "TERMBRIDGE_PORT", "TERMBRIDGE_LOG_LEVEL", "SHELL", "HOME",
    "XDG_CONFIG_HOME"]

/-- The value of a variable that is set and not empty. -/
def nonempty (value : Option String) : Option String := value.filter fun v => !v.isEmpty

/-- The shell for commands if none is configured. -/
def defaultShell (env : Environment) : String := (nonempty env.shell).getD "/bin/sh"

/-- The directory for configuration files. -/
def configDirectory (env : Environment) : String :=
  match env.configHome.filter fun dir => Machine.isAbsolute dir.toList with
  | some dir => dir
  | none => Session.LogFile.within ((nonempty env.home).getD "/root") ".config"

/-- The file that holds the configuration if no other is named. -/
def configPath (env : Environment) : String :=
  Session.LogFile.within (Session.LogFile.within env.configDirectory "termbridge") "config.toml"

end Environment

/-- Where a daemon listens and what it logs. -/
structure Config.Server where
  /-- The address to listen on. -/
  bindAddress : String
  /-- The port to listen on. -/
  port : UInt16
  /-- What is logged. -/
  logLevel : String
deriving DecidableEq, Repr

/-- How sessions are run. -/
structure Config.Sessions where
  /-- The shell for commands. -/
  shell : String
  /-- How many chunks each channel holds at most. -/
  channelCapacity : UInt64
  /-- The directory for output logs, if they are kept. -/
  outputLogDir : Option String
deriving DecidableEq, Repr

/-- A configuration. -/
structure Config where
  /-- Where the daemon listens and what it logs. -/
  server : Config.Server
  /-- How sessions are run. -/
  session : Config.Sessions
deriving DecidableEq, Repr

namespace Config

/-- The configuration without a file, for a default shell. -/
def defaults (shell : String) : Config :=
  ⟨⟨"127.0.0.1", 8080, "info"⟩, ⟨shell, UInt64.ofNat Session.Channel.defaultCapacity, none⟩⟩

/-! ## Checks -/

/-- Why a configuration cannot be used. -/
inductive Error where
  /-- The port is zero. -/
  | port (port : UInt16)
  /-- The address to listen on is none. -/
  | bindAddress (address : String)
  /-- The capacity of channels is out of bounds. -/
  | channelCapacity (capacity : UInt64)
  /-- The shell is not there. -/
  | shell (path : String)
  /-- There is no such level of logging. -/
  | logLevel (level : String)
deriving DecidableEq, Repr

/-- The levels of logging. -/
def logLevels : List String := ["trace", "debug", "info", "warn", "error"]

/-- The greatest capacity of a channel. -/
def greatestCapacity : Nat := 65536

/-- The text of an error. -/
def Error.message : Error → String
  | port p => "port must be between 1 and 65535, got " ++ toString p.toNat
  | bindAddress a => "bind_address must be an IP address, got " ++ a
  | channelCapacity n =>
    "channel_capacity must be between 1 and " ++ toString greatestCapacity ++ ", got "
      ++ toString n.toNat
  | shell path => "shell not found: " ++ path
  | logLevel level =>
    "log_level must be one of: " ++ ", ".intercalate logLevels ++ "; got " ++ level

/-- The address and the port to listen on. -/
def Server.socket (s : Server) : Except Error (List Char) :=
  match Ip.parse? s.bindAddress.toList with
  | some ip => .ok (ip.socketText s.port.toNat)
  | none => .error (.bindAddress s.bindAddress)

/-- Whether a shell can be found: something stands under its path if that is absolute, else the path
or name leads to a program. -/
def hasShell (m : Machine) (shell : String) : Bool :=
  if Machine.isAbsolute shell.toList then m.hasPath shell.toList else m.hasProgram shell.toList

/-- The lower-case form of a level of logging. -/
def lowered (level : String) : String := String.ofList (level.toList.map Char.toLower)

/-- Checks a configuration and gives the first thing that is wrong. -/
def validate (m : Machine) (c : Config) : Except Error Unit := do
  if c.server.port = 0 then throw (.port c.server.port)
  let _ ← c.server.socket
  let capacity := c.session.channelCapacity
  if capacity.toNat < 1 ∨ greatestCapacity < capacity.toNat then throw (.channelCapacity capacity)
  if !hasShell m c.session.shell then throw (.shell c.session.shell)
  if !logLevels.contains (lowered c.server.logLevel) then throw (.logLevel c.server.logLevel)

/-! ## Overrides -/

/-- The port that a text spells. -/
def port? (text : String) : Option UInt16 :=
  (Numeral.parseUpTo? 65535 text.toList).map UInt16.ofNat

/-- The configuration with what the environment sets in its place.  A port that is none does not
count. -/
def override (env : Environment) (c : Config) : Config :=
  { c with server := {
      bindAddress := (Environment.nonempty env.bindAddress).getD c.server.bindAddress
      port := ((Environment.nonempty env.port).bind port?).getD c.server.port
      logLevel := (Environment.nonempty env.logLevel).getD c.server.logLevel } }

end Config

end SharedTerminal
