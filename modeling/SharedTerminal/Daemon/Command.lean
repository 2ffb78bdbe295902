import SharedTerminal.CommandLine
import SharedTerminal.Config.File
import SharedTerminal.Text.Quoted

/-!
# The command line of the daemon

The daemon starts serving, or prints its configuration.  Either way the configuration is put
together first: a file, the environment, and for serving the command line.

The log of the daemon goes where a configuration is printed, to the standard output.  Before the
configuration is checked, the log says from which file it comes, if one is named.
-/

namespace SharedTerminal.Daemon

open CommandLine (Given Stop Opt)

/-! ## The log -/

/-- The log of a daemon.  Its notes say what is worth knowing and neither a warning nor an error. -/
structure Log where
  /-- Whether notes are shown under a filter, which is the name of a level of logging or any other
  text. -/
  shows : String → Bool
  /-- What stands in front of a note: when it was written, and by whom. -/
  lead : String

namespace Log

/-- The levels of logging at which notes are shown. -/
def noting : List String := ["trace", "debug", "info"]

/-- A note, if it is shown. -/
def note (log : Log) (filter text : String) : String :=
  if log.shows filter then log.lead ++ text ++ "\n" else ""

/-- A log in colours, whose notes are written at a time. -/
def colored (time : String) : Log where
  shows := noting.contains
  lead := "\x1b[2m" ++ time ++ "\x1b[0m \x1b[32m INFO\x1b[0m \x1b[2mtermbridge_daemon\x1b[0m"
    ++ "\x1b[2m:\x1b[0m "

end Log

/-! ## Arguments -/

/-- What the daemon is asked to do. -/
inductive Job where
  /-- To serve, maybe at another address or port than configured. -/
  | start (bind : Option String) (port : Option UInt16)
  /-- To print the configuration. -/
  | config
deriving DecidableEq, Repr

/-- What the command line says. -/
structure Command where
  /-- The configuration file, if one is named. -/
  file : Option String
  /-- Whether everything is logged. -/
  verbose : Bool
  /-- What the daemon is asked to do. -/
  job : Job
deriving DecidableEq, Repr

namespace Command

/-- The options that can stand anywhere. -/
def anywhere : List Opt :=
  [CommandLine.path "config" (some 'c'), CommandLine.flag "verbose" (some 'v'), CommandLine.help]

/-- The options before the name of the job. -/
def leading : List Opt := CommandLine.version :: anywhere

/-- The greatest port. -/
def greatestPort : Nat := 65535

/-- The options for serving. -/
def starting : List Opt :=
  [CommandLine.text "bind" none, CommandLine.number greatestPort "port" (some 'p')] ++ anywhere

/-- Reads the options of a job; nothing else may follow its name. -/
def options (known : List Opt) (args : List String) : Except Stop Given := do
  match ← CommandLine.read known args with
  | (given, [], _) => return given
  | _ => throw .refused

/-- Answers a question about a job, or about all of them. -/
def help : List String → Stop
  | [] => .answered CommandLine.help.long
  | [name] =>
    if ["start", "config", "help"].contains name then .answered CommandLine.help.long else .refused
  | _ => .refused

/-- The command with options from before and after the name of the job; the latter win. -/
def make (before after : Given) (job : Job) : Command :=
  { file := (after.lookup "config").orElse fun _ => before.lookup "config"
    verbose := CommandLine.has after "verbose" || CommandLine.has before "verbose"
    job := job }

/-- Reads the arguments. -/
def parse (args : List String) : Except Stop Command := do
  match ← CommandLine.read leading args with
  | (given, [], _) => return make given [] (.start none none)
  | (_, _, true) => throw .refused
  | (before, name :: rest, false) =>
    match name with
    | "start" =>
      let after ← options starting rest
      let port := (CommandLine.numberOf? greatestPort after "port").map UInt16.ofNat
      return make before after (.start (after.lookup "bind") port)
    | "config" => return make before (← options anywhere rest) .config
    | "help" => throw (help rest)
    | _ => throw .refused

/-! ## Running -/

/-- How a run of the daemon ends, or that it does not. -/
inductive Outcome where
  /-- The arguments make no sense. -/
  | refused
  /-- Help or the version was shown. -/
  | answered
  /-- Something is wrong with the configuration. -/
  | failed (message : String)
  /-- The configuration was printed. -/
  | printed (document : String)
  /-- The daemon serves. -/
  | serving (config : Config)
deriving DecidableEq, Repr

/-- The exit code of a run that ends. -/
def Outcome.code : Outcome → Nat
  | refused => 2
  | failed _ => 1
  | _ => 0

/-- The line that tells why a run failed: the first of the message. -/
def Outcome.errorLine? : Outcome → Option String
  | failed message => some ("Error: " ++ String.ofList (message.toList.takeWhile (· != '\n')))
  | _ => none

/-- The configuration with what the command line sets in its place. -/
def Job.override (job : Job) (c : Config) : Config :=
  match job with
  | .config => c
  | .start bind port =>
    { c with server := { c.server with
        bindAddress := bind.getD c.server.bindAddress, port := port.getD c.server.port } }

/-- Puts the configuration together.  `find` gives what stands under a path. -/
def assemble (env : Environment) (find : String → Stored) (command : Command) :
    Except String Config :=
  let path := command.file.getD env.configPath
  match Config.load env.defaultShell path (find path) with
  | .error e => .error e.message
  | .ok loaded => .ok (Job.override command.job (loaded.override env))

/-- What is logged of a run: all, or what the configuration says. -/
def filter (command : Command) (c : Config) : String :=
  if command.verbose then "debug" else Config.lowered c.server.logLevel

/-- What is noted of the configuration before it is checked. -/
def note (log : Log) (command : Command) (c : Config) : String :=
  match command.file with
  | some path => log.note (command.filter c) ("Using config file: " ++ Quoted.quote path)
  | none => ""

/-- Checks the configuration and does the job as far as the point where the daemon serves. -/
def conclude (m : Machine) (job : Job) (c : Config) : Outcome :=
  match c.validate m with
  | .error e => .failed e.message
  | .ok () =>
    match job with
    | .start _ _ => .serving c
    | .config =>
      match c.toDocument? with
      | some document => .printed document
      | none => .failed Config.FileError.unwritable.message

/-- A run of the daemon, up to the point where it serves. -/
structure Run where
  /-- What was noted in the log. -/
  noted : String
  /-- How the run ends. -/
  outcome : Outcome
deriving DecidableEq, Repr

/-- What stands on the standard output after a run, apart from help and the version. -/
def Run.output (r : Run) : String :=
  match r.outcome with
  | .printed document => r.noted ++ document
  | _ => r.noted

/-- Runs the daemon. -/
def run (log : Log) (env : Environment) (m : Machine) (find : String → Stored)
    (args : List String) : Run :=
  match parse args with
  | .error .refused => ⟨"", .refused⟩
  | .error (.answered _) => ⟨"", .answered⟩
  | .ok command =>
    match assemble env find command with
    | .error message => ⟨"", .failed message⟩
    | .ok c => ⟨command.note log c, conclude m command.job c⟩

end Command

end SharedTerminal.Daemon
