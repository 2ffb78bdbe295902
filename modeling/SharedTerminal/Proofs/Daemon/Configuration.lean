import SharedTerminal.Daemon.Command
import SharedTerminal.Proofs.Config.Layers
import SharedTerminal.Proofs.Config.RoundTrip
import SharedTerminal.Proofs.Text.Utf8

/-!
# What the daemon runs with

The configuration that a daemon runs with, or prints, is that of its file, the environment and the
command line, in this order over the defaults, and it must be one that can be used.  The document
that is printed says all of it, so that nothing is left to the defaults when it is read again; the
environment then puts the same values in the same places once more.

The log goes where the document goes.  If a file is named and the log shows notes, a note stands in
front of the document, and the two together are no document any more (`Log.IsUsual.parse_eq_error`).
So what is printed can be given back as the file if, and only if, nothing was noted.

The main statement is `run_effective`.
-/

namespace SharedTerminal

namespace Config

variable {env : Environment} {path : String} {c : Config} {document : String}

/-- Whoever loads what was written gets it back, whatever the shell of the user is. -/
lemma load_document (h : c.toDocument? = some document) :
    load env.defaultShell path (.file (utf8 document)) = .ok c := by
  have hcapacity : c.session.channelCapacity.toNat < 0x8000000000000000 := by
    by_contra hge
    rw [toDocument?, if_neg hge] at h
    cases h
  obtain rfl : String.ofList c.documentChars = document := by
    rw [toDocument?, if_pos hcapacity] at h
    exact Option.some.inj h
  have hdecode : Utf8.decode? (utf8 (String.ofList c.documentChars)) = some c.documentChars := by
    rw [utf8, String.toList_ofList, Utf8.decode?, Utf8.validPrefix_encode]
  obtain ⟨entries, hparse, hfits⟩ :=
    Toml.Document.exists_parse? (isWritten_tables hcapacity) (areDistinct_tables c)
  have hread : parse env.defaultShell c.documentChars = .ok c := by
    rw [parse, documentChars_eq, hparse]
    exact fill_tables hfits env.defaultShell
  simp [load, hdecode, hread]

/-- A configuration that can be used can be written. -/
lemma IsUsable.exists_toDocument? {m : Machine} (h : c.IsUsable m) :
    ∃ document, c.toDocument? = some document := by
  have hle := h.capacity_le
  exact ⟨String.ofList c.documentChars, if_pos (by omega)⟩

end Config

namespace Daemon

open Config (Layer IsReadable)

/-- The address that the command line sets. -/
def Job.bind? : Job → Option String
  | .start bind _ => bind
  | .config => none

/-- The port that the command line sets. -/
def Job.port? : Job → Option UInt16
  | .start _ port => port
  | .config => none

/-! ## The log -/

/-- What is known of a log. -/
structure Log.IsUsual (log : Log) : Prop where
  /-- Notes are shown at the level of notes and at the two that show more. -/
  shows_iff : ∀ level ∈ Config.logLevels,
    log.shows level = true ↔ level ∈ ["trace", "debug", "info"]
  /-- A note begins with an escape for the terminal, or with the time, a date and an hour up to the
  first colon. -/
  lead : (∃ rest, log.lead.toList = '\x1b' :: rest) ∨
    ∃ hour rest, hour ≠ [] ∧ (∀ c ∈ hour, c.isAlphanum = true ∨ c = '-') ∧
      log.lead.toList = hour ++ ':' :: rest

namespace Log

variable {log : Log}

/-- A log in colours is a usual one. -/
lemma isUsual_colored (time : String) : (colored time).IsUsual where
  shows_iff := by
    show ∀ level ∈ Config.logLevels,
      noting.contains level = true ↔ level ∈ ["trace", "debug", "info"]
    decide
  lead := Or.inl ⟨_, by simp only [colored, String.toList_append]; rfl⟩

/-- A text that begins with a note is no configuration. -/
lemma IsUsual.parse_eq_error (h : log.IsUsual) (shell text : String) :
    Config.parse shell (log.lead ++ text).toList = .error ⟨.malformed, none⟩ := by
  have hread : Toml.Statement.readAll? (log.lead ++ text).toList = none := by
    rw [String.toList_append]
    rcases h.lead with ⟨rest, hlead⟩ | ⟨hour, rest, hempty, hhour, hlead⟩
    · rw [hlead, List.cons_append]
      exact Toml.Statement.readAll?_escape _
    · have hbare : Toml.Statement.IsBareName hour := by
        refine ⟨hempty, fun c hc => ?_⟩
        rcases hhour c hc with halnum | rfl
        · simp [Toml.Statement.isBare, halnum]
        · rfl
      rw [hlead, List.append_assoc, List.cons_append]
      exact Toml.Statement.readAll?_colon hbare _
  rw [Config.parse, Toml.Document.parse?, hread]
  rfl

end Log

namespace Command

variable {log later : Log} {env : Environment} {m : Machine} {find : String → Stored}
  {args : List String} {command again : Command} {c : Config} {file : Layer} {document : String}

/-- What stands under the path of the configuration file. -/
def stored (env : Environment) (find : String → Stored) (command : Command) : Stored :=
  find (command.file.getD env.configPath)

/-- The configuration for a command, with what its file says. -/
def effective (env : Environment) (command : Command) (file : Layer) : Config :=
  { server := {
      bindAddress := ((command.job.bind?.or (Environment.nonempty env.bindAddress)).or
        file.bindAddress).getD "127.0.0.1"
      port := ((command.job.port?.or (env.port.bind Config.port?)).or file.port).getD 8080
      logLevel := ((Environment.nonempty env.logLevel).or file.logLevel).getD "info" }
    session := {
      shell := file.shell.getD env.defaultShell
      channelCapacity := file.channelCapacity.getD 1024
      outputLogDir := file.outputLogDir } }

/-! ## The layers of a configuration -/

/-- The command line sets its values over what is there. -/
lemma override_eq (job : Job) (c : Config) :
    Job.override job c = ({ bindAddress := job.bind?, port := job.port? } : Layer).on c := by
  rcases job with ⟨bind, port⟩ | _ <;> rfl

/-- The defaults, the file, the environment and the command line are put together in this order. -/
lemma override_effective (env : Environment) (command : Command) (file : Layer) :
    Job.override command.job
        (Config.override env (file.on (Config.defaults env.defaultShell))) =
      command.effective env file := by
  rw [Layer.on_ofEnvironment, override_eq, Layer.on_on, Layer.on_on]
  simp only [effective, Layer.atop, Layer.on, Layer.ofEnvironment, Config.defaults,
    Option.or_assoc, Option.none_or, Option.or_none]
  rfl

/-- The environment sets nothing that it has not set before. -/
lemma override_effective_self (hjob : command.job = .config) (file : Layer) :
    Config.override env (command.effective env file) = command.effective env file := by
  have hnone : ∀ c, Job.override command.job c = c := by
    intro c
    rw [hjob]
    rfl
  have htwice : (Layer.ofEnvironment env).atop (Layer.ofEnvironment env) =
      Layer.ofEnvironment env := by
    simp [Layer.atop]
  rw [← override_effective, hnone, Layer.on_ofEnvironment, Layer.on_ofEnvironment, Layer.on_on,
    htwice]

/-- A configuration is put together if its file is not there or can be read. -/
lemma assemble_eq_ok_iff :
    assemble env find command = .ok c ↔
      IsReadable env.defaultShell (command.stored env find) ∧
        c = command.effective env (Layer.ofStored (command.stored env find)) := by
  rcases hload : Config.load env.defaultShell (command.file.getD env.configPath)
    (command.stored env find) with e | loaded
  · have hnot : ¬ IsReadable env.defaultShell (command.stored env find) := by
      intro hread
      rw [Config.load_eq_ok_iff.2 ⟨hread, rfl⟩] at hload
      cases hload
    have herror : assemble env find command = .error e.message := by
      rw [stored] at hload
      simp only [assemble, hload]
    rw [herror]
    exact ⟨fun hok => (nomatch hok), fun h => absurd h.1 hnot⟩
  · obtain ⟨hread, rfl⟩ := Config.load_eq_ok_iff.1 hload
    have hok : assemble env find command =
        .ok (command.effective env (Layer.ofStored (command.stored env find))) := by
      rw [← override_effective]
      rw [stored] at hload ⊢
      simp only [assemble, hload]
    rw [hok, Except.ok.injEq]
    exact ⟨fun h => ⟨hread, h.symm⟩, fun h => h.2.symm⟩

/-! ## Running -/

/-- A configuration that cannot be used ends the run. -/
lemma exists_conclude_eq_failed (h : ¬ c.IsUsable m) (job : Job) :
    ∃ message, conclude m job c = .failed message := by
  rcases hvalid : c.validate m with e | u
  · exact ⟨e.message, by simp only [conclude, hvalid]⟩
  · exact absurd (Config.validate_eq_ok_iff.1 hvalid) h

lemma conclude_start (h : c.IsUsable m) (bind : Option String) (port : Option UInt16) :
    conclude m (.start bind port) c = .serving c := by
  simp only [conclude, Config.validate_eq_ok_iff.2 h]

lemma conclude_config (h : c.IsUsable m) (hc : c.toDocument? = some document) :
    conclude m .config c = .printed document := by
  simp only [conclude, Config.validate_eq_ok_iff.2 h, hc]

/-- A run with a file that is not there or can be read comes to its job. -/
lemma run_of_isReadable (log : Log) (m : Machine) (hargs : parse args = .ok command)
    (h : IsReadable env.defaultShell (command.stored env find)) :
    let c := command.effective env (Layer.ofStored (command.stored env find))
    run log env m find args = ⟨command.note log c, conclude m command.job c⟩ := by
  intro c
  have hassemble : assemble env find command = .ok c := assemble_eq_ok_iff.2 ⟨h, rfl⟩
  simp only [run, hargs, hassemble]

/-- A run with any other file ends there, and nothing is noted. -/
lemma exists_run_eq_failed (log : Log) (m : Machine) (hargs : parse args = .ok command)
    (h : ¬ IsReadable env.defaultShell (command.stored env find)) :
    ∃ message, run log env m find args = ⟨"", .failed message⟩ := by
  rcases hassemble : assemble env find command with message | c
  · exact ⟨message, by simp only [run, hargs, hassemble]⟩
  · exact absurd (assemble_eq_ok_iff.1 hassemble).1 h

/-- A run fails if its file cannot be read or its configuration cannot be used. -/
lemma exists_outcome_eq_failed (log : Log) (hargs : parse args = .ok command)
    (h : ¬ (IsReadable env.defaultShell (command.stored env find) ∧
      (command.effective env (Layer.ofStored (command.stored env find))).IsUsable m)) :
    ∃ message, (run log env m find args).outcome = .failed message := by
  by_cases hread : IsReadable env.defaultShell (command.stored env find)
  · rw [run_of_isReadable log m hargs hread]
    exact exists_conclude_eq_failed (fun husable => h ⟨hread, husable⟩) command.job
  · obtain ⟨message, hrun⟩ := exists_run_eq_failed log m hargs hread
    exact ⟨message, by rw [hrun]⟩

/-- A run that is to print the configuration prints it behind what is noted, if it can be used. -/
lemma run_config (log : Log) (hargs : parse args = .ok command) (hjob : command.job = .config)
    (hread : IsReadable env.defaultShell (command.stored env find))
    (hc : command.effective env (Layer.ofStored (command.stored env find)) = c)
    (husable : c.IsUsable m) (hdocument : c.toDocument? = some document) :
    run log env m find args = ⟨command.note log c, .printed document⟩ := by
  rw [run_of_isReadable log m hargs hread, hc, hjob, conclude_config husable hdocument]

/-! ## What is noted -/

/-- Whether nothing is noted of a run: no file is named, or no more than warnings is logged. -/
def IsQuiet (command : Command) (c : Config) : Prop :=
  command.file = none ∨
    command.verbose = false ∧ Config.lowered c.server.logLevel ∈ ["warn", "error"]

/-- The log shows notes of a run unless it goes no further than warnings. -/
lemma shows_filter_iff (hlog : log.IsUsual) (h : c.IsUsable m) :
    log.shows (command.filter c) = true ↔
      ¬ (command.verbose = false ∧ Config.lowered c.server.logLevel ∈ ["warn", "error"]) := by
  rcases hverbose : command.verbose with _ | _
  · have hlevel := h.logLevel
    rw [filter, hverbose, if_neg Bool.false_ne_true, hlog.shows_iff _ hlevel]
    simp only [List.mem_cons, List.not_mem_nil, or_false] at hlevel ⊢
    rcases hlevel with heq | heq | heq | heq | heq <;> simp [heq]
  · rw [filter, hverbose, if_pos rfl, hlog.shows_iff _ (by decide)]
    simp

lemma note_of_isQuiet (hlog : log.IsUsual) (husable : c.IsUsable m) (h : command.IsQuiet c) :
    command.note log c = "" := by
  rcases hfile : command.file with _ | path
  · rw [note, hfile]
  · have hhides : ¬ log.shows (command.filter c) = true := by
      rw [shows_filter_iff hlog husable, not_not]
      exact h.resolve_left (by rw [hfile]; exact Option.some_ne_none path)
    rw [note, hfile]
    exact if_neg hhides

lemma exists_note_of_not_isQuiet (hlog : log.IsUsual) (husable : c.IsUsable m)
    (h : ¬ command.IsQuiet c) :
    ∃ path, command.file = some path ∧ command.note log c =
      log.lead ++ ("Using config file: " ++ Quoted.quote path) ++ "\n" := by
  obtain ⟨hnamed, hloud⟩ := not_or.1 h
  obtain ⟨path, hpath⟩ := Option.ne_none_iff_exists'.1 hnamed
  refine ⟨path, hpath, ?_⟩
  rw [note, hpath]
  exact if_pos ((shows_filter_iff hlog husable).2 hloud)

lemma note_eq_empty_iff (hlog : log.IsUsual) (husable : c.IsUsable m) :
    command.note log c = "" ↔ command.IsQuiet c := by
  refine ⟨fun hnote => ?_, note_of_isQuiet hlog husable⟩
  by_contra hloud
  obtain ⟨path, -, htext⟩ := exists_note_of_not_isQuiet hlog husable hloud
  rw [hnote, eq_comm, String.append_eq_empty_iff] at htext
  exact absurd htext.2 (by decide)

/-! ## Asking again -/

/-- A configuration is asked for, and a text is the file. -/
structure Asks (env : Environment) (find : String → Stored) (args : List String)
    (command : Command) (text : String) : Prop where
  /-- The arguments make a command. -/
  args : parse args = .ok command
  /-- The configuration is to be printed. -/
  job : command.job = .config
  /-- The text stands where the file is looked for. -/
  file : command.stored env find = .file (utf8 text)

/-- A document that was printed is printed again. -/
lemma Asks.run_eq_printed (h : Asks env find args command document)
    (hc : c.toDocument? = some document) (husable : c.IsUsable m) (hsame : c.override env = c) :
    run log env m find args = ⟨command.note log c, .printed document⟩ := by
  have hload : Config.load env.defaultShell (command.file.getD env.configPath)
      (command.stored env find) = .ok c := by
    rw [h.file]
    exact Config.load_document hc
  obtain ⟨hread, hloaded⟩ := Config.load_eq_ok_iff.1 hload
  have heffective : command.effective env (Layer.ofStored (command.stored env find)) = c := by
    rw [← override_effective, ← hloaded, hsame, h.job]
    rfl
  exact run_config log h.args h.job hread heffective husable hc

/-- What begins with a note is no configuration. -/
lemma Asks.exists_run_eq_failed (h : Asks env find args again (command.note log c ++ document))
    (later : Log) (hlog : log.IsUsual) (husable : c.IsUsable m) (hloud : ¬ command.IsQuiet c) :
    ∃ message, run later env m find args = ⟨"", .failed message⟩ := by
  obtain ⟨path, -, hnote⟩ := exists_note_of_not_isQuiet hlog husable hloud
  refine Command.exists_run_eq_failed later m h.args ?_
  rw [h.file]
  rintro (hnone | ⟨content, page, loaded, hcontent, hdecode, hparse⟩)
  · cases hnone
  · obtain rfl := Stored.file.inj hcontent
    have hpage : page = (command.note log c ++ document).toList := by
      rw [utf8, Utf8.decode?, Utf8.validPrefix_encode] at hdecode
      exact (Option.some.inj hdecode).symm
    rw [hpage, hnote, String.append_assoc, String.append_assoc, hlog.parse_eq_error] at hparse
    cases hparse

/-- All that was printed is printed again if nothing is noted either time. -/
lemma Asks.output_eq_iff (h : Asks env find args again (command.note log c ++ document))
    (hlog : log.IsUsual) (hlater : later.IsUsual) (hc : c.toDocument? = some document)
    (husable : c.IsUsable m) (hsame : c.override env = c) :
    (run later env m find args).output = command.note log c ++ document ↔
      command.IsQuiet c ∧ again.IsQuiet c := by
  by_cases hquiet : command.IsQuiet c
  · rw [note_of_isQuiet hlog husable hquiet, String.empty_append] at h ⊢
    rw [h.run_eq_printed hc husable hsame, Run.output, String.append_eq_right_iff,
      note_eq_empty_iff hlater husable, and_iff_right hquiet]
  · obtain ⟨message, hrun⟩ := h.exists_run_eq_failed later hlog husable hquiet
    rw [hrun]
    constructor
    · intro heq
      have hnote := (String.append_eq_empty_iff.1 heq.symm).1
      exact absurd ((note_eq_empty_iff hlog husable).1 hnote) hquiet
    · exact fun hboth => absurd hboth.1 hquiet

/-- **The daemon runs with what its sources say, layer over layer.**  Its configuration is put
together field by field: what the command line says counts first, then the environment, then the
file, then the defaults.  If the file is not there or can be read, and the configuration can be
used, the daemon serves with it or prints it; otherwise it fails, and its exit code says so.

If a file is named and notes are shown, a note stands in front of the document that is printed.
Whoever asks for the configuration again with the document as the file is printed the same
document.  Whoever does so with all that was printed is printed the same if nothing was noted either
time; if there was a note, the text is no configuration, and nothing is printed. -/
theorem run_effective (log : Log) (hlog : log.IsUsual) (env : Environment) (m : Machine)
    (find : String → Stored) (hargs : parse args = .ok command) :
    let stored := command.stored env find
    let c := command.effective env (Layer.ofStored stored)
    let r := run log env m find args
    (∀ bind port, command.job = .start bind port →
      (r.outcome = .serving c ↔ IsReadable env.defaultShell stored ∧ c.IsUsable m)) ∧
    (command.job = .config →
      ((∃ document, r.outcome = .printed document) ↔
        IsReadable env.defaultShell stored ∧ c.IsUsable m) ∧
      (r.outcome.code = 0 ↔ IsReadable env.defaultShell stored ∧ c.IsUsable m) ∧
      ∀ document, r.outcome = .printed document → c.toDocument? = some document ∧
        (command.IsQuiet c → r.output = document) ∧
        (¬ command.IsQuiet c → ∃ path, command.file = some path ∧ r.output =
          log.lead ++ ("Using config file: " ++ Quoted.quote path) ++ "\n" ++ document) ∧
        ∀ (later : Log) (more : List String) (again : Command) (other : String → Stored),
          later.IsUsual →
            (Asks env other more again document →
              (run later env m other more).outcome = .printed document) ∧
            (Asks env other more again r.output →
              ((run later env m other more).output = r.output ↔
                command.IsQuiet c ∧ again.IsQuiet c) ∧
              (¬ command.IsQuiet c →
                ∃ message, run later env m other more = ⟨"", .failed message⟩))) ∧
    (¬ (IsReadable env.defaultShell stored ∧ c.IsUsable m) →
      ∃ message, r.outcome = .failed message) := by
  intro stored c r
  by_cases h : IsReadable env.defaultShell stored ∧ c.IsUsable m
  · have hr : r = ⟨command.note log c, conclude m command.job c⟩ :=
      run_of_isReadable log m hargs h.1
    refine ⟨fun bind port hjob => iff_of_true ?_ h, fun hjob => ?_, absurd h⟩
    · rw [hr, hjob]
      exact conclude_start h.2 bind port
    obtain ⟨written, hwritten⟩ := h.2.exists_toDocument?
    rw [hjob, conclude_config h.2 hwritten] at hr
    refine ⟨iff_of_true ⟨written, by rw [hr]⟩ h, iff_of_true (by rw [hr]; rfl) h,
      fun document hout => ?_⟩
    obtain rfl : written = document := by
      rw [hr] at hout
      exact Outcome.printed.inj hout
    have hsame : c.override env = c := override_effective_self hjob (Layer.ofStored stored)
    have houtput : r.output = command.note log c ++ written := by
      rw [hr]
      rfl
    refine ⟨hwritten, fun hquiet => ?_, fun hloud => ?_, fun later more again other hlater =>
      ⟨fun hasks => ?_, fun hasks => ?_⟩⟩
    · rw [houtput, note_of_isQuiet hlog h.2 hquiet, String.empty_append]
    · obtain ⟨path, hpath, hnote⟩ := exists_note_of_not_isQuiet hlog h.2 hloud
      exact ⟨path, hpath, by rw [houtput, hnote]⟩
    · rw [hasks.run_eq_printed hwritten h.2 hsame]
    · rw [houtput] at hasks ⊢
      exact ⟨hasks.output_eq_iff hlog hlater hwritten h.2 hsame,
        hasks.exists_run_eq_failed later hlog h.2⟩
  · -- Where the condition fails there is one outcome, which is none of the others.
    obtain ⟨message, hfailed⟩ : ∃ message, r.outcome = .failed message :=
      exists_outcome_eq_failed log hargs h
    rw [hfailed]
    refine ⟨fun bind port _ => iff_of_false (fun hserves => nomatch hserves) h, fun _ =>
      ⟨iff_of_false (fun ⟨document, hout⟩ => nomatch hout) h,
        iff_of_false Nat.one_ne_zero h, fun document hout => nomatch hout⟩,
      fun _ => ⟨message, rfl⟩⟩

/-- An environment with an address, a port that is none and an empty level. -/
def sparseEnvironment : Environment :=
  ⟨some "0.0.0.0", some "http", some "", none, some "/root", none⟩

/-- A machine with a shell and nothing else. -/
def sparseMachine : Machine :=
  ⟨[([['b', 'i', 'n']], .directory), ([['b', 'i', 'n'], ['s', 'h']], .program)],
    [[['b', 'i', 'n']]], none⟩

/-- A file with an address and a port, and the name of a shell. -/
def sparseFile : String :=
  "[server]\nbind_address = \"::1\"\nport = 9000\n[session]\nshell = \"sh\"\n"

/-- The address is that of the environment, the port and the shell are those of the file, and the
rest is as ever. -/
def sparseConfig : Config := ⟨⟨"0.0.0.0", 9000, "info"⟩, ⟨"sh", 1024, none⟩⟩

/-- The log at noon. -/
def noon : Log := .colored "2025-01-01T12:00:00.000000Z"

/-- The log a second later. -/
def afterNoon : Log := .colored "2025-01-01T12:00:01.000000Z"

/-- The configuration is asked for from a file. -/
def sparseCommand : Command := ⟨some "t.toml", false, .config⟩

lemma sparse_effective :
    IsReadable sparseEnvironment.defaultShell (.file (utf8 sparseFile)) ∧
      sparseCommand.effective sparseEnvironment (Layer.ofStored (.file (utf8 sparseFile))) =
        sparseConfig := by
  have hload : Config.load sparseEnvironment.defaultShell "t.toml" (.file (utf8 sparseFile)) =
      .ok ⟨⟨"::1", 9000, "info"⟩, ⟨"sh", 1024, none⟩⟩ := by decide +kernel
  obtain ⟨hreadable, hloaded⟩ := Config.load_eq_ok_iff.1 hload
  refine ⟨hreadable, ?_⟩
  rw [← override_effective, ← hloaded]
  decide

lemma isUsable_sparse : sparseConfig.IsUsable sparseMachine :=
  ⟨by decide, by decide +kernel, by decide, by decide, by decide +kernel, by decide⟩

/-- The configuration is printed behind a note. -/
theorem run_effective_sparse :
    let r := run noon sparseEnvironment sparseMachine (fun _ => .file (utf8 sparseFile))
      ["config", "--config", "t.toml"]
    noon.IsUsual ∧ parse ["config", "--config", "t.toml"] = .ok sparseCommand ∧
      ∃ document, sparseConfig.toDocument? = some document ∧ r.outcome = .printed document ∧
        r.output = noon.lead ++ ("Using config file: " ++ "\"t.toml\"") ++ "\n" ++ document := by
  intro r
  have hlog : noon.IsUsual := Log.isUsual_colored _
  have hargs : parse ["config", "--config", "t.toml"] = .ok sparseCommand := rfl
  obtain ⟨hreadable, heffective⟩ := sparse_effective
  have hrun := (run_effective noon hlog sparseEnvironment sparseMachine
    (fun _ => .file (utf8 sparseFile)) hargs).2.1 rfl
  simp only [stored, heffective] at hrun
  obtain ⟨document, hprinted⟩ := hrun.1.2 ⟨hreadable, isUsable_sparse⟩
  obtain ⟨hdocument, -, hnoted, -⟩ := hrun.2.2 document hprinted
  obtain ⟨path, hpath, houtput⟩ := hnoted (by rw [IsQuiet]; decide)
  obtain rfl : "t.toml" = path := Option.some.inj hpath
  exact ⟨hlog, hargs, document, hdocument, hprinted, houtput⟩

/-- With what was printed behind a note as the file, nothing is printed any more. -/
theorem exists_printed_not_printed_again :
    let args := ["config", "--config", "t.toml"]
    let r := run noon sparseEnvironment sparseMachine (fun _ => .file (utf8 sparseFile)) args
    let again := run afterNoon sparseEnvironment sparseMachine (fun _ => .file (utf8 r.output)) args
    r.outcome.code = 0 ∧ r.output ≠ "" ∧ again.outcome.code = 1 ∧ again.output = "" := by
  intro args r again
  have hlog : noon.IsUsual := Log.isUsual_colored _
  have hargs : parse args = .ok sparseCommand := rfl
  have hloud : ¬ sparseCommand.IsQuiet sparseConfig := by
    rw [IsQuiet]
    decide
  obtain ⟨hreadable, heffective⟩ := sparse_effective
  obtain ⟨document, hdocument⟩ := isUsable_sparse.exists_toDocument?
  have hr : r = ⟨sparseCommand.note noon sparseConfig, .printed document⟩ :=
    run_config noon hargs rfl hreadable heffective isUsable_sparse hdocument
  have hasks : Asks sparseEnvironment (fun _ => .file (utf8 r.output)) args sparseCommand
      (sparseCommand.note noon sparseConfig ++ document) :=
    ⟨hargs, rfl, by rw [hr]; rfl⟩
  obtain ⟨message, hagain⟩ : ∃ message, again = ⟨"", .failed message⟩ :=
    hasks.exists_run_eq_failed afterNoon hlog isUsable_sparse hloud
  rw [hagain]
  refine ⟨by rw [hr]; rfl, fun hempty => ?_, rfl, rfl⟩
  rw [hr] at hempty
  exact hloud ((note_eq_empty_iff hlog isUsable_sparse).1 (String.append_eq_empty_iff.1 hempty).1)

end Command

end Daemon

end SharedTerminal
