import SharedTerminal.Client.Command
import SharedTerminal.Daemon.Command
import SharedTerminal.Machine.Usual

/-!
# The program

The first argument chooses between the daemon and the client, and the others are theirs.  The daemon
puts its configuration together and checks or prints it; a configuration file comes on the standard
input, under the path `/dev/stdin`.  The client checks its settings.  The program opens no
connections: where one is needed it says so and fails.
-/

namespace SharedTerminal

/-- The path under which the standard input stands. -/
def inputPath : String := "/dev/stdin"

/-- Reads the rest of a stream. -/
partial def readRest (stream : IO.FS.Stream) (read : ByteArray) : IO ByteArray := do
  let chunk ← stream.read 4096
  if chunk.isEmpty then return read else readRest stream (read ++ chunk)

/-- The variables of the environment that matter. -/
def currentEnvironment : IO Environment := do
  let values ← Environment.names.mapM fun name => return (name, ← IO.getEnv name)
  return .ofVariables fun name => (values.lookup name).join

/-- Prints on the standard error. -/
def complain (text : String) : IO Unit := do
  (← IO.getStderr).putStrLn text

/-- Runs the daemon and gives the exit code. -/
def runDaemon (args : List String) : IO Nat := do
  let environment ← currentEnvironment
  let named := match Daemon.Command.parse args with
    | .ok command => command.file == some inputPath
    | .error _ => false
  let input ← if named then readRest (← IO.getStdin) .empty else pure .empty
  let find (path : String) : Stored :=
    if path == inputPath then .file input.toList else Machine.usual.find path.toList
  let log := Daemon.Log.colored (toString (← IO.monoMsNow) ++ "ms")
  let run := Daemon.Command.run log environment .usual find args
  IO.print run.output
  let outcome := run.outcome
  match outcome with
  | .printed _ => pure ()
  | .serving c => complain ("Error: no network to listen on " ++ c.server.bindAddress)
  | .refused => complain "error: invalid arguments"
  | .answered | .failed _ => complain (outcome.errorLine?.getD "")
  return match outcome with
    | .serving _ => 1
    | outcome => outcome.code

/-- Runs the client and gives the exit code. -/
def runClient (args : List String) : IO Nat := do
  let run := Client.Run.begin args
  (← IO.getStdout).write ⟨run.printed.toArray⟩
  match run.exit? with
  | none =>
    complain ("Error: Failed to connect to " ++ run.command.settings.base)
    return 1
  | some exit =>
    if let some line := exit.errorLine? then complain line
    return exit.code

end SharedTerminal

/-- Runs the daemon or the client. -/
def main (args : List String) : IO UInt32 := do
  let code ← match args with
    | "daemon" :: args => SharedTerminal.runDaemon args
    | "client" :: args => SharedTerminal.runClient args
    | _ =>
      SharedTerminal.complain "Usage: daemon [ARGUMENTS] or client [ARGUMENTS]"
      pure 2
  return UInt32.ofNat code
