import SharedTerminal.Prompt
import SharedTerminal.Shell.Script

/-!
# The console

The prompt together with the tasks that it starts.  A line is given to the shell, as a program that
runs on a terminal of its own.  The console looks at the program after every key: it shows the echo
first, and then what the program has written since the last look.

A program that has ended is noticed only by one who waits for it.
-/

namespace SharedTerminal

namespace Console

/-- The program of a task, and its terminal. -/
structure Job where
  /-- The line that was started. -/
  line : String
  /-- The settings of the terminal. -/
  modes : Terminal.Modes
  /-- What was typed. -/
  keyboard : Terminal.Keyboard
  /-- How much of what the program wrote was shown. -/
  seen : Nat
  /-- Whether the program was hung up on. -/
  hungUp : Bool
deriving DecidableEq, Repr

/-! ## Starting programs -/

/-- Why a program cannot be started. -/
inductive Obstacle where
  /-- There is no program under an absolute path. -/
  | unusable (program : String) (reason : String)
  /-- There is no program with a name. -/
  | notFound (program : String)
  /-- A directory cannot be run. -/
  | directory
  /-- A line with the character NUL cannot be passed on. -/
  | nul
deriving DecidableEq, Repr

/-- The wording of an obstacle. -/
def Obstacle.message : Obstacle → String
  | unusable program reason =>
    "Unable to spawn " ++ program
      ++ " because it doesn't exist on the filesystem or is not executable (" ++ reason ++ ")"
  | notFound program =>
    "Unable to spawn " ++ program
      ++ " because it doesn't exist on the filesystem and was not found in PATH"
  | directory => "Permission denied (os error 13)"
  | nul => "nul byte found in provided data"

/-- Finds a program under an absolute path. -/
def locateAbsolute (m : Machine) (program : String) : Except Obstacle Unit :=
  let path := program.toList
  if path.contains '\x00' then .error (.unusable program "EINVAL: Invalid argument")
  else match m.find path with
    | .program => .ok ()
    | .directory => .error .directory
    | .file _ => .error (.unusable program "EACCES: Permission denied")
    | .absent => .error (.unusable program "ENOENT: No such file or directory")

/-- Finds a program by its name in the directories of the search path.  A name that stands for a
directory from everywhere is no program. -/
def locateByName (m : Machine) (program : String) : Except Obstacle Unit :=
  let path := program.toList
  if (Machine.parts path).all (· == ['.', '.']) then .error .directory
  else if path.contains '\x00' then .error (.notFound program)
  else
    let places := m.searchPath.map fun folder =>
      m.find (folder.flatMap (fun part => '/' :: part) ++ '/' :: path)
    if places.any (· = .program) then .ok () else .error (.notFound program)

/-- Finds out whether a program can run a line. -/
def locate (m : Machine) (program line : String) : Except Obstacle Unit := do
  if Machine.isAbsolute program.toList then locateAbsolute m program else locateByName m program
  if line.toList.contains '\x00' then throw .nul

/-- The launcher of a prompt whose lines are run by a program. -/
def launcher (m : Machine) (program : String) : Prompt.Launcher := fun _ line =>
  match locate m program line with
  | .ok () => .ok ()
  | .error obstacle => .error (.engine obstacle.message)

end Console

/-- A prompt and the task that it runs. -/
structure Console where
  /-- The machine. -/
  machine : Machine
  /-- The program that runs lines. -/
  shell : String
  /-- The prompt. -/
  prompt : Prompt
  /-- The program that runs. -/
  job : Option Console.Job

namespace Console

/-- A console before anything was typed, and what it tells first. -/
def start (machine : Machine) (shell : String) : Console × List Prompt.Act :=
  let (prompt, acts) := Prompt.start 1
  (⟨machine, shell, prompt, none⟩, acts)

/-- The event of output, if there is any. -/
def outputEvent (bytes : Bytes) : List Engine.Event :=
  if bytes.isEmpty then [] else [.output bytes]

/-- Does what the prompt does, and gives the events. -/
def carryOut (c : Console) : Prompt.Act → Console × List Engine.Event
  | .tell report => (c, [report.event])
  | .launch _ line =>
    ({ c with
        job := some ⟨line, .fresh c.prompt.cols c.prompt.rows, .untouched, 0, false⟩ }, [])
  | .type bytes =>
    match c.job with
    | none => (c, [])
    | some job =>
      let (keyboard, echo) := job.keyboard.type job.modes bytes
      ({ c with job := some { job with keyboard := keyboard } }, outputEvent echo)
  | .kill => ({ c with job := c.job.map fun job => { job with hungUp := true } }, [])
  | .resize cols rows =>
    ({ c with
        job := c.job.map fun job =>
          { job with modes := { job.modes with cols := cols, rows := rows } } }, [])

/-- Does several things in turn. -/
def carryOutAll (c : Console) (acts : List Prompt.Act) : Console × List Engine.Event :=
  acts.foldl
    (fun (c, events) act =>
      let (c, more) := c.carryOut act
      (c, events ++ more))
    (c, [])

/-- Takes a command.  A console that stops forgets what it runs. -/
def take (c : Console) (command : Engine.Command) : Console × List Engine.Event :=
  let (prompt, acts) := c.prompt.react (launcher c.machine c.shell) command
  let (c, events) := { c with prompt := prompt }.carryOutAll acts
  (if prompt.stopped then { c with job := none } else c, events)

/-- What has come of a program, if one waits for so many milliseconds. -/
def Job.outcome (job : Job) (machine : Machine) (shell : String) (patience : Nat) :
    Shell.Outcome :=
  Shell.outcome machine (.fresh job.modes.cols job.modes.rows) job.keyboard.parts patience shell
    ["-c", job.line]

/-- Looks at the program that runs: shows what it has written since the last look, and tells
whether it has ended, and with success. -/
def look (c : Console) (patience : Nat) : Console × List Engine.Event × Option Bool :=
  match c.job with
  | none => (c, [], none)
  | some job =>
    if job.hungUp then (c, [], some false)
    else
      let outcome := job.outcome c.machine c.shell patience
      let job := { job with
        seen := outcome.screen.length
        modes := { job.modes with
          echoes := outcome.modes.echoes
          returns := outcome.modes.returns } }
      ({ c with job := some job },
        outputEvent (outcome.screen.drop (c.job.elim 0 Job.seen)), outcome.ending)

/-- Lets the program do what it can do at once. -/
def advance (c : Console) : Console × List Engine.Event :=
  let (c, events, _) := c.look 0
  (c, events)

/-- How many milliseconds one waits for a program. -/
def patience : Nat := 20000

/-- Waits for the program to end, and takes notice. -/
def await (c : Console) : Console × List Engine.Event :=
  let (c, events, ending) := c.look patience
  match c.prompt.running, ending with
  | some running, some success =>
    let (prompt, acts) := c.prompt.finish running.task success
    let (c, more) := { c with prompt := prompt, job := none }.carryOutAll acts
    (c, events ++ more)
  | _, _ => (c, events)

end Console

end SharedTerminal
