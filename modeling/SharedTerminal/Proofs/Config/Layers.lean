import SharedTerminal.Config.File
import Mathlib.Data.List.Basic

/-!
# Layers of a configuration

A source of values, such as a file or the environment, says something about some fields of a
configuration and nothing about the others: it is a layer.  A layer over another one is a layer
again, and so a configuration that was put together step by step is one layer over the defaults.

What a file says is read off the tree of its document: under the names of a table and a key, or
under the place of the key if the table is an array.  The reader takes the entries one after the
other and stops at the first that does not fit; if it comes to the end, each field is what the
document says about it (`fill_document`).

The main statements are `load_eq_ok_iff` and `validate_eq_ok_iff`.
-/

namespace SharedTerminal.Config

open Toml (Node Key Entries)

/-- What a source says about a configuration. -/
structure Layer where
  /-- The address to listen on. -/
  bindAddress : Option String := none
  /-- The port to listen on. -/
  port : Option UInt16 := none
  /-- What is logged. -/
  logLevel : Option String := none
  /-- The shell for commands. -/
  shell : Option String := none
  /-- How many chunks each channel holds at most. -/
  channelCapacity : Option UInt64 := none
  /-- The directory for output logs. -/
  outputLogDir : Option String := none
deriving DecidableEq, Repr

namespace Layer

/-- What two layers say; the first one counts where both say something. -/
def atop (l below : Layer) : Layer :=
  { bindAddress := l.bindAddress.or below.bindAddress
    port := l.port.or below.port
    logLevel := l.logLevel.or below.logLevel
    shell := l.shell.or below.shell
    channelCapacity := l.channelCapacity.or below.channelCapacity
    outputLogDir := l.outputLogDir.or below.outputLogDir }

/-- A configuration with what a layer says in its place. -/
def on (l : Layer) (c : Config) : Config :=
  { server := {
      bindAddress := l.bindAddress.getD c.server.bindAddress
      port := l.port.getD c.server.port
      logLevel := l.logLevel.getD c.server.logLevel }
    session := {
      shell := l.shell.getD c.session.shell
      channelCapacity := l.channelCapacity.getD c.session.channelCapacity
      outputLogDir := l.outputLogDir.or c.session.outputLogDir } }

@[simp] lemma on_empty (c : Config) : on {} c = c := rfl

lemma on_on (l below : Layer) (c : Config) : l.on (below.on c) = (l.atop below).on c := by
  simp [on, atop, Option.or_assoc, Option.getD_or]

/-- What the environment says.  A variable that is empty says nothing, and neither does a port
that is none. -/
def ofEnvironment (env : Environment) : Layer :=
  { bindAddress := Environment.nonempty env.bindAddress
    port := env.port.bind port?
    logLevel := Environment.nonempty env.logLevel }

/-- An empty text spells no port. -/
lemma nonempty_bind_port? (value : Option String) :
    (Environment.nonempty value).bind port? = value.bind port? := by
  rcases value with _ | text
  · rfl
  · by_cases hempty : text = ""
    · subst hempty
      rfl
    · have hset : Environment.nonempty (some text) = some text := by
        simp [Environment.nonempty, hempty]
      rw [hset]

lemma on_ofEnvironment (env : Environment) (c : Config) :
    c.override env = (ofEnvironment env).on c := by
  simp [override, on, ofEnvironment, nonempty_bind_port?]

end Layer

/-! ## What a document says -/

/-- The text of a value. -/
def text? : Node → Option String
  | .text s _ => some s
  | _ => none

/-- The whole number of a value, if it is below a bound. -/
def natBelow? (bound : Nat) : Node → Option Nat
  | .scalar (.integer n) _ => if 0 ≤ n ∧ n < bound then some n.toNat else none
  | _ => none

/-- What entries say under a key.  A document that gives a key twice is malformed; the last value
would count. -/
def under {α : Type} (key : String) (read : Node → Option α) (entries : Entries) : Option α :=
  (entries.filterMap fun (k, node) => if k.name = key then read node else none).getLast?

/-- What a table says under a key, or under its place among the keys. -/
def inTable {α : Type} (key : String) (place : Nat) (read : Node → Option α) : Node → Option α
  | .table _ entries _ => under key read entries
  | .array items _ => items[place]?.bind read
  | .tables items => items[place]?.bind read
  | _ => none

/-- What a document says. -/
def Layer.ofEntries (entries : Entries) : Layer :=
  { bindAddress := under "server" (inTable "bind_address" 0 text?) entries
    port := under "server"
      (inTable "port" 1 fun node => (natBelow? 65536 node).map UInt16.ofNat) entries
    logLevel := under "server" (inTable "log_level" 2 text?) entries
    shell := under "session" (inTable "shell" 0 text?) entries
    channelCapacity := under "session" (inTable "channel_capacity" 1
      fun node => (natBelow? UInt64.size node).map UInt64.ofNat) entries
    outputLogDir := under "session" (inTable "output_log_dir" 2 text?) entries }

/-- What stands under the path of a configuration says. -/
def Layer.ofStored : Stored → Layer
  | .file content =>
    (((Utf8.decode? content).bind Toml.Document.parse?).map Layer.ofEntries).getD {}
  | _ => {}

/-! ## Reading follows the document -/

variable {σ α β : Type} {settings : List (Setting σ)} {setting : Setting σ} {key : String}
  {place : Nat} {part : σ → Option α} {read : Node → Option α} {start next : σ}
  {entries : Entries} {items : List Node} {node : Node}

lemma under_cons (k : Key) (node : Node) (entries : Entries) :
    under key read ((k, node) :: entries) =
      (under key read entries).or (if k.name = key then read node else none) := by
  rw [under, List.filterMap_cons]
  rcases hread : (if k.name = key then read node else none) with _ | a
  · simp only [hread, Option.or_none, under]
  · simp only [hread, under, List.getLast?_cons, Option.or_some]

/-- A setting passes what it reads in a value on to a part of the state. -/
def Setting.Writes (setting : Setting σ) (part : σ → Option α) (read : Node → Option α) : Prop :=
  ∀ state node next, setting.set state node = .ok next → part next = (read node).or (part state)

/-- Of all settings, only the one of a key, which stands at some place, writes to a part of the
state. -/
structure IsWritten (settings : List (Setting σ)) (key : String) (place : Nat)
    (part : σ → Option α) (read : Node → Option α) : Prop where
  /-- The key stands at its place. -/
  stands : (settings.map Setting.name)[place]? = some key
  /-- No two settings have one name. -/
  distinct : (settings.map Setting.name).Nodup
  /-- The other settings leave this part alone. -/
  writes : ∀ s ∈ settings, s.Writes part (if s.name = key then read else fun _ => none)

namespace IsWritten

lemma mem_names (h : IsWritten settings key place part read) :
    key ∈ settings.map Setting.name :=
  List.mem_of_getElem? h.stands

/-- One entry of a table. -/
lemma step (h : IsWritten settings key place part read) {k : Key}
    (hfill : fill settings start ((k, node) :: entries) = .ok next) :
    ∃ middle, part middle = (if k.name = key then read node else none).or (part start) ∧
      fill settings middle entries = .ok next := by
  rw [fill, List.foldlM_cons] at hfill
  rcases hfind : settings.find? (fun s => s.name == k.name) with _ | s
  · have hne : k.name ≠ key := by
      rintro rfl
      obtain ⟨s, hs, hname⟩ := List.mem_map.1 h.mem_names
      exact List.find?_eq_none.1 hfind s hs (by simp [hname])
    simp only [hfind] at hfill
    exact ⟨start, by simp [hne], hfill⟩
  · have hname : s.name = k.name := by simpa using List.find?_some hfind
    simp only [hfind] at hfill
    rcases hset : s.set start node with m | middle
    · rw [hset] at hfill
      cases hfill
    · rw [hset] at hfill
      refine ⟨middle, ?_, hfill⟩
      rw [h.writes s (List.mem_of_find?_eq_some hfind) start node middle hset, hname]
      split <;> rfl

lemma fill (h : IsWritten settings key place part read)
    (hfill : fill settings start entries = .ok next) :
    part next = (under key read entries).or (part start) := by
  induction entries generalizing start with
  | nil =>
    obtain rfl : start = next := by simpa [Config.fill, pure, Except.pure] using hfill
    rfl
  | cons entry entries ih =>
    obtain ⟨middle, hmiddle, hrest⟩ := h.step hfill
    rw [ih hrest, hmiddle, under_cons, Option.or_assoc]

/-- One item of an array. -/
lemma step_inOrder {settings : List (Setting σ)}
    (hfill : fillInOrder (setting :: settings) start (node :: items) = .ok next) :
    ∃ middle, setting.set start node = .ok middle ∧
      fillInOrder settings middle items = .ok next := by
  rw [fillInOrder] at hfill
  rcases hset : setting.set start node with m | middle
  · rw [hset] at hfill
    cases hfill
  · rw [hset] at hfill
    exact ⟨middle, rfl, hfill⟩

/-- Settings that leave a part alone do so one after the other. -/
lemma inOrder_eq (h : ∀ s ∈ settings, s.Writes part fun _ => none)
    (hfill : fillInOrder settings start items = .ok next) : part next = part start := by
  induction settings generalizing start items with
  | nil => cases hfill; rfl
  | cons setting settings ih =>
    rcases items with _ | ⟨node, items⟩
    · cases hfill
      rfl
    · obtain ⟨middle, hset, hrest⟩ := step_inOrder hfill
      rw [ih (fun s hs => h s (List.mem_cons_of_mem _ hs)) hrest,
        h setting List.mem_cons_self start node middle hset, Option.none_or]

lemma inOrder (h : IsWritten settings key place part read)
    (hfill : fillInOrder settings start items = .ok next) :
    part next = (items[place]?.bind read).or (part start) := by
  induction settings generalizing place start items with
  | nil => cases h.mem_names
  | cons setting settings ih =>
    rcases items with _ | ⟨node, items⟩
    · cases hfill
      simp
    · obtain ⟨middle, hset, hrest⟩ := step_inOrder hfill
      have hmiddle := h.writes setting List.mem_cons_self start node middle hset
      obtain ⟨hnew, hdistinct⟩ := List.nodup_cons.1 (List.map_cons ▸ h.distinct)
      rcases place with _ | place
      · have hname : setting.name = key := Option.some.inj h.stands
        -- The key stands at its place only, so that the items behind it say nothing about it.
        have hothers : ∀ s ∈ settings, s.Writes part fun _ => none := by
          intro s hs
          have hne : s.name ≠ key := by
            rintro rfl
            exact hnew (hname ▸ List.mem_map_of_mem hs)
          have hwrites := h.writes s (List.mem_cons_of_mem _ hs)
          rwa [if_neg hne] at hwrites
        rw [inOrder_eq hothers hrest, hmiddle, if_pos hname]
        rfl
      · have hstands : (settings.map Setting.name)[place]? = some key := h.stands
        have hne : setting.name ≠ key := by
          rintro rfl
          exact hnew (List.mem_of_getElem? hstands)
        have htail : IsWritten settings key place part read :=
          ⟨hstands, hdistinct, fun s hs => h.writes s (List.mem_cons_of_mem _ hs)⟩
        rw [ih htail hrest, hmiddle, if_neg hne, Option.none_or]
        rfl

/-- A table, however it is written. -/
lemma group (h : IsWritten settings key place part read) {expected : String}
    (hgroup : group expected settings start node = .ok next) :
    part next = (inTable key place read node).or (part start) := by
  rcases node with ⟨_, _⟩ | ⟨scalar, _⟩ | ⟨items, _⟩ | ⟨_, entries, _⟩ | items
  · cases hgroup
  · rcases scalar with _ | _ | _ | _
    · cases hgroup
    · cases hgroup
    · cases hgroup
    · cases hgroup
      rfl
  · exact h.inOrder hgroup
  · exact h.fill hgroup
  · exact h.inOrder hgroup

end IsWritten

/-! ## The keys of a configuration -/

lemma bind_pure_eq_ok {ε : Type} {x : Except ε α} {f : α → β} {b : β} :
    (x >>= fun a => pure (f a)) = .ok b ↔ ∃ a, x = .ok a ∧ f a = b := by
  rcases x with e | a <;> simp [bind, Except.bind, pure, Except.pure]

lemma text?_eq_some {expected : String} {a : String} (h : asText expected node = .ok a) :
    text? node = some a := by
  rcases node with ⟨_, _⟩ | _ | _ | _ | _ <;> simp_all [asText, text?]

lemma natBelow?_eq_some {expected : String} {bound n : Nat}
    (h : asNat expected bound node = .ok n) : natBelow? bound node = some n := by
  unfold asNat at h
  split at h
  · split at h
    · rename_i hin
      exact (if_pos hin).trans (congrArg some (Except.ok.inj h))
    · cases h
  · cases h

/-- What a value under a key of the table `server` changes. -/
lemma set_server {s : Setting Server} (hs : s ∈ serverSettings) {start next : Server}
    (hset : s.set start node = .ok next) :
    (s.name = "bind_address" ∧ ∃ a, text? node = some a ∧ next = { start with bindAddress := a }) ∨
    (s.name = "port" ∧ ∃ n, natBelow? 65536 node = some n ∧
      next = { start with port := UInt16.ofNat n }) ∨
    (s.name = "log_level" ∧ ∃ a, text? node = some a ∧ next = { start with logLevel := a }) := by
  simp only [serverSettings, List.mem_cons, List.not_mem_nil, or_false] at hs
  rcases hs with rfl | rfl | rfl
  · obtain ⟨a, ha, rfl⟩ := bind_pure_eq_ok.1 hset
    exact .inl ⟨rfl, a, text?_eq_some ha, rfl⟩
  · obtain ⟨n, hn, rfl⟩ := bind_pure_eq_ok.1 hset
    exact .inr (.inl ⟨rfl, n, natBelow?_eq_some hn, rfl⟩)
  · obtain ⟨a, ha, rfl⟩ := bind_pure_eq_ok.1 hset
    exact .inr (.inr ⟨rfl, a, text?_eq_some ha, rfl⟩)

/-- What a value under a key of the table `session` changes. -/
lemma set_session {s : Setting Sessions} (hs : s ∈ sessionSettings) {start next : Sessions}
    (hset : s.set start node = .ok next) :
    (s.name = "shell" ∧ ∃ a, text? node = some a ∧ next = { start with shell := a }) ∨
    (s.name = "channel_capacity" ∧ ∃ n, natBelow? UInt64.size node = some n ∧
      next = { start with channelCapacity := UInt64.ofNat n }) ∨
    (s.name = "output_log_dir" ∧ ∃ a, text? node = some a ∧
      next = { start with outputLogDir := some a }) := by
  simp only [sessionSettings, List.mem_cons, List.not_mem_nil, or_false] at hs
  rcases hs with rfl | rfl | rfl
  · obtain ⟨a, ha, rfl⟩ := bind_pure_eq_ok.1 hset
    exact .inl ⟨rfl, a, text?_eq_some ha, rfl⟩
  · obtain ⟨n, hn, rfl⟩ := bind_pure_eq_ok.1 hset
    exact .inr (.inl ⟨rfl, n, natBelow?_eq_some hn, rfl⟩)
  · obtain ⟨a, ha, rfl⟩ := bind_pure_eq_ok.1 hset
    exact .inr (.inr ⟨rfl, a, text?_eq_some ha, rfl⟩)

lemma isWritten_bindAddress :
    IsWritten serverSettings "bind_address" 0 (fun s => some s.bindAddress) text? := by
  refine ⟨rfl, by decide, fun s hs start node next hset => ?_⟩
  rcases set_server hs hset with ⟨hname, a, ha, rfl⟩ | ⟨hname, n, -, rfl⟩ | ⟨hname, a, -, rfl⟩
  · simp [hname, ha]
  · simp [hname]
  · simp [hname]

lemma isWritten_port :
    IsWritten serverSettings "port" 1 (fun s => some s.port)
      fun node => (natBelow? 65536 node).map UInt16.ofNat := by
  refine ⟨rfl, by decide, fun s hs start node next hset => ?_⟩
  rcases set_server hs hset with ⟨hname, a, -, rfl⟩ | ⟨hname, n, hn, rfl⟩ | ⟨hname, a, -, rfl⟩
  · simp [hname]
  · simp [hname, hn]
  · simp [hname]

lemma isWritten_logLevel :
    IsWritten serverSettings "log_level" 2 (fun s => some s.logLevel) text? := by
  refine ⟨rfl, by decide, fun s hs start node next hset => ?_⟩
  rcases set_server hs hset with ⟨hname, a, -, rfl⟩ | ⟨hname, n, -, rfl⟩ | ⟨hname, a, ha, rfl⟩
  · simp [hname]
  · simp [hname]
  · simp [hname, ha]

lemma isWritten_shell :
    IsWritten sessionSettings "shell" 0 (fun s => some s.shell) text? := by
  refine ⟨rfl, by decide, fun s hs start node next hset => ?_⟩
  rcases set_session hs hset with ⟨hname, a, ha, rfl⟩ | ⟨hname, n, -, rfl⟩ | ⟨hname, a, -, rfl⟩
  · simp [hname, ha]
  · simp [hname]
  · simp [hname]

lemma isWritten_channelCapacity :
    IsWritten sessionSettings "channel_capacity" 1 (fun s => some s.channelCapacity)
      fun node => (natBelow? UInt64.size node).map UInt64.ofNat := by
  refine ⟨rfl, by decide, fun s hs start node next hset => ?_⟩
  rcases set_session hs hset with ⟨hname, a, -, rfl⟩ | ⟨hname, n, hn, rfl⟩ | ⟨hname, a, -, rfl⟩
  · simp [hname]
  · rw [if_pos hname, hn]
    rfl
  · simp [hname]

lemma isWritten_outputLogDir :
    IsWritten sessionSettings "output_log_dir" 2 Sessions.outputLogDir text? := by
  refine ⟨rfl, by decide, fun s hs start node next hset => ?_⟩
  rcases set_session hs hset with ⟨hname, a, -, rfl⟩ | ⟨hname, n, -, rfl⟩ | ⟨hname, a, ha, rfl⟩
  · simp [hname]
  · simp [hname]
  · simp [hname, ha]

/-- A part of the table `server` is a part of the configuration. -/
lemma IsWritten.server {part : Server → Option α}
    (h : IsWritten serverSettings key place part read) :
    IsWritten Config.settings "server" 0 (fun c => part c.server) (inTable key place read) := by
  refine ⟨rfl, by decide, fun s hs start node next hset => ?_⟩
  simp only [Config.settings, List.mem_cons, List.not_mem_nil, or_false] at hs
  rcases hs with rfl | rfl
  · obtain ⟨server, hserver, rfl⟩ := bind_pure_eq_ok.1 hset
    exact h.group hserver
  · obtain ⟨sessions, -, rfl⟩ := bind_pure_eq_ok.1 hset
    rfl

/-- A part of the table `session` is a part of the configuration. -/
lemma IsWritten.session {part : Sessions → Option α}
    (h : IsWritten sessionSettings key place part read) :
    IsWritten Config.settings "session" 1 (fun c => part c.session) (inTable key place read) := by
  refine ⟨rfl, by decide, fun s hs start node next hset => ?_⟩
  simp only [Config.settings, List.mem_cons, List.not_mem_nil, or_false] at hs
  rcases hs with rfl | rfl
  · obtain ⟨server, -, rfl⟩ := bind_pure_eq_ok.1 hset
    rfl
  · obtain ⟨sessions, hsessions, rfl⟩ := bind_pure_eq_ok.1 hset
    exact h.group hsessions

/-- **A document that can be read is a layer.**  Each field is what the document says about it, or
what it was before. -/
theorem fill_document {start c : Config} (h : fill Config.settings start entries = .ok c) :
    c = (Layer.ofEntries entries).on start := by
  have haddress := isWritten_bindAddress.server.fill h
  have hport := isWritten_port.server.fill h
  have hlevel := isWritten_logLevel.server.fill h
  have hshell := isWritten_shell.session.fill h
  have hcapacity := isWritten_channelCapacity.session.fill h
  have hdir := isWritten_outputLogDir.session.fill h
  simp only [Option.or_some, Option.some.injEq] at haddress hport hlevel hshell hcapacity
  rcases c with ⟨⟨_, _, _⟩, ⟨_, _, _⟩⟩
  simp only at haddress hport hlevel hshell hcapacity hdir
  rw [haddress, hport, hlevel, hshell, hcapacity, hdir]
  rfl

/-! ## Loading -/

/-- A file is not there, or a configuration can be read from it. -/
def IsReadable (shell : String) (stored : Stored) : Prop :=
  stored = .absent ∨ ∃ content document c, stored = .file content ∧
    Utf8.decode? content = some document ∧ parse shell document = .ok c

/-- Loading gives what the file says over the defaults, if the file can be read. -/
lemma load_eq_ok_iff {shell path : String} {stored : Stored} {c : Config} :
    load shell path stored = .ok c ↔
      IsReadable shell stored ∧ c = (Layer.ofStored stored).on (defaults shell) := by
  rcases stored with _ | _ | content | _
  · simp [load, IsReadable, Layer.ofStored, eq_comm]
  · simp [load, IsReadable]
  · rcases hdecode : Utf8.decode? content with _ | document
    · simp [load, IsReadable, hdecode]
    rcases hparse : parse shell document with m | loaded
    · simp [load, IsReadable, hdecode, hparse]
    have hlayer : loaded = (Layer.ofStored (.file content)).on (defaults shell) := by
      rw [parse] at hparse
      split at hparse
      · cases hparse
      · rename_i entries htree
        simp only [Layer.ofStored, hdecode, htree, Option.bind_some, Option.map_some,
          Option.getD_some]
        exact fill_document hparse
    have hread : IsReadable shell (.file content) :=
      .inr ⟨content, document, loaded, rfl, hdecode, hparse⟩
    simp [load, hdecode, hparse, hread, ← hlayer, eq_comm]
  · simp [load, IsReadable]

/-! ## Checking -/

/-- What a configuration must be like for the daemon to use it. -/
structure IsUsable (m : Machine) (c : Config) : Prop where
  /-- There is a port. -/
  port : c.server.port ≠ 0
  /-- The address to listen on is one. -/
  bindAddress : (Ip.parse? c.server.bindAddress.toList).isSome
  /-- Channels hold at least one chunk. -/
  one_le_capacity : 1 ≤ c.session.channelCapacity.toNat
  /-- Channels hold at most so many chunks. -/
  capacity_le : c.session.channelCapacity.toNat ≤ 65536
  /-- The shell is there. -/
  shell : hasShell m c.session.shell
  /-- The level is one of five, in whatever case it is written. -/
  logLevel : lowered c.server.logLevel ∈ ["trace", "debug", "info", "warn", "error"]

/-- A check that fails ends it all. -/
lemma check_eq_ok {ε : Type} {p : Prop} [Decidable p] {e : ε} {f : Unit → Except ε β}
    {rest : Except ε β} {b : β} :
    (if p then throw e >>= f else rest) = .ok b ↔ ¬p ∧ rest = .ok b := by
  by_cases hp : p <;> simp [hp, throw, throwThe, MonadExceptOf.throw, bind, Except.bind]

lemma bind_socket_eq_ok {s : Server} {f : List Char → Except Error β} {rest : Except Error β}
    {b : β} (hf : ∀ text, f text = rest) :
    s.socket >>= f = .ok b ↔ (Ip.parse? s.bindAddress.toList).isSome ∧ rest = .ok b := by
  rcases hip : Ip.parse? s.bindAddress.toList with _ | ip <;>
    simp [Server.socket, hip, bind, Except.bind, hf]

lemma validate_eq_ok_iff {m : Machine} {c : Config} : c.validate m = .ok () ↔ c.IsUsable m := by
  unfold validate
  simp only [check_eq_ok, bind_socket_eq_ok fun _ => rfl]
  have hlevel : (if (!logLevels.contains (lowered c.server.logLevel)) = true then
        throw (Error.logLevel c.server.logLevel) else pure () : Except Error Unit) = .ok () ↔
      lowered c.server.logLevel ∈ logLevels := by
    by_cases h : lowered c.server.logLevel ∈ logLevels <;>
      simp [h, throw, throwThe, MonadExceptOf.throw, pure, Except.pure]
  rw [hlevel]
  constructor
  · rintro ⟨hport, haddress, hcapacity, hshell, hlevel⟩
    simp only [greatestCapacity, not_or, Nat.not_lt] at hcapacity
    exact ⟨hport, haddress, hcapacity.1, hcapacity.2, by simpa using hshell, hlevel⟩
  · intro h
    have hcapacity := And.intro h.one_le_capacity h.capacity_le
    refine ⟨h.port, h.bindAddress, ?_, by simp [h.shell], h.logLevel⟩
    simp only [greatestCapacity, not_or, Nat.not_lt]
    exact hcapacity

end SharedTerminal.Config
