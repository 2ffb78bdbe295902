import SharedTerminal.Config.Document
import SharedTerminal.Proofs.Toml.Document
import Mathlib.Data.List.Forall2

/-!
# Configurations come back

A configuration is written as two plain tables (`documentChars_eq`), which come back as such.  What
is left is to put each value in its place.  All of them are in the document, except for a directory
that is absent, and so nothing of the defaults is left in what was read, the shell of the user
included.

The main statement is `toDocument?_round_trip`.
-/

namespace SharedTerminal.Config

open Toml (Key Node Entries Member Table Statement.tablesChars)

variable {σ : Type} {settings : List (Setting σ)} {setting : Setting σ} {state next : σ}
  {entry : Key × Node} {entries rest : Entries}

/-! ## A configuration as tables -/

/-- A line with a text. -/
def textMember (key value : String) : Member := ⟨key, Toml.Text.encode value.toList, .text value⟩

/-- A line with a number. -/
def numberMember (key : String) (n : Nat) : Member :=
  ⟨key, (toString n).toList, .scalar (.integer n)⟩

/-- What says where the daemon listens and what it logs. -/
def Server.members (s : Server) : List Member :=
  [textMember "bind_address" s.bindAddress, numberMember "port" s.port.toNat,
    textMember "log_level" s.logLevel]

/-- What says how sessions are run.  A directory that is absent is left out. -/
def Sessions.members (s : Sessions) : List Member :=
  [textMember "shell" s.shell, numberMember "channel_capacity" s.channelCapacity.toNat]
    ++ (s.outputLogDir.map (textMember "output_log_dir")).toList

/-- The tables of a configuration. -/
def tables (c : Config) : List Table := [⟨"server", c.server.members⟩, ⟨"session", c.session.members⟩]

lemma chars_textMember (key value : String) : (textMember key value).chars = textLine key value :=
  rfl

lemma chars_numberMember (key : String) (n : Nat) :
    (numberMember key n).chars = numberLine key n := rfl

/-- A document is nothing but these tables. -/
lemma documentChars_eq (c : Config) : c.documentChars = Statement.tablesChars c.tables := by
  rcases hdir : c.session.outputLogDir with _ | dir <;>
    simp [documentChars, tables, Statement.tablesChars, Table.chars, headerLine, Server.members,
      Sessions.members, chars_textMember, chars_numberMember, hdir]

/-- No key of a configuration needs quotes. -/
lemma isBareName_key : ∀ key ∈ ["server", "bind_address", "port", "log_level", "session", "shell",
    "channel_capacity", "output_log_dir"], Toml.Statement.IsBareName key.toList := by
  have hall : ∀ key ∈ ["server", "bind_address", "port", "log_level", "session", "shell",
      "channel_capacity", "output_log_dir"],
      (!key.toList.isEmpty && key.toList.all Toml.Statement.isBare) = true := by decide
  exact fun key hkey => .of_all (hall key hkey)

lemma isWritten_textMember {key : String} (hkey : Toml.Statement.IsBareName key.toList)
    (value : String) : (textMember key value).IsWritten := ⟨hkey, Toml.spells_text value⟩

lemma isWritten_numberMember {key : String} (hkey : Toml.Statement.IsBareName key.toList)
    {n : Nat} (hn : n < 0x8000000000000000) : (numberMember key n).IsWritten :=
  ⟨hkey, Toml.spells_number hn⟩

lemma isWritten_tables {c : Config} (hc : c.session.channelCapacity.toNat < 0x8000000000000000) :
    ∀ t ∈ c.tables, t.IsWritten := by
  have hport : c.server.port.toNat < 0x8000000000000000 :=
    Nat.lt_trans (UInt16.toNat_lt c.server.port) (by decide)
  intro t ht
  simp only [tables, List.mem_cons, List.not_mem_nil, or_false] at ht
  rcases ht with rfl | rfl
  · refine ⟨isBareName_key "server" (by decide), fun m hm => ?_⟩
    simp only [Server.members, List.mem_cons, List.not_mem_nil, or_false] at hm
    rcases hm with rfl | rfl | rfl
    · exact isWritten_textMember (isBareName_key "bind_address" (by decide)) _
    · exact isWritten_numberMember (isBareName_key "port" (by decide)) hport
    · exact isWritten_textMember (isBareName_key "log_level" (by decide)) _
  · refine ⟨isBareName_key "session" (by decide), fun m hm => ?_⟩
    simp only [Sessions.members, List.mem_append, List.mem_cons, List.not_mem_nil, or_false,
      Option.mem_toList, Option.map_eq_some_iff] at hm
    rcases hm with (rfl | rfl) | ⟨dir, -, rfl⟩
    · exact isWritten_textMember (isBareName_key "shell" (by decide)) _
    · exact isWritten_numberMember (isBareName_key "channel_capacity" (by decide)) hc
    · exact isWritten_textMember (isBareName_key "output_log_dir" (by decide)) _

lemma areDistinct_tables (c : Config) : Toml.AreDistinct c.tables := by
  refine ⟨by simp [tables], fun t ht => ?_⟩
  simp only [tables, List.mem_cons, List.not_mem_nil, or_false] at ht
  rcases ht with rfl | rfl
  · simp [Server.members, textMember, numberMember]
  · rcases hdir : c.session.outputLogDir with _ | dir <;>
      simp [Sessions.members, hdir, textMember, numberMember]

/-! ## Putting values in their places -/

/-- An entry with a known key is put in its place, and the others follow. -/
lemma fill_cons (hfind : settings.find? (fun s => s.name == entry.1.name) = some setting)
    (hset : setting.set state entry.2 = .ok next) :
    fill settings state (entry :: rest) = fill settings next rest := by
  rw [fill, List.foldlM_cons]
  simp only [hfind, hset]
  rfl

lemma fill_member {m : Member} (hm : m.Fits entry)
    (hfind : settings.find? (fun s => s.name == m.key) = some setting)
    (hset : ∀ span, setting.set state (m.makes span) = .ok next) :
    fill settings state (entry :: rest) = fill settings next rest := by
  obtain ⟨hkey, span, hvalue⟩ := hm
  exact fill_cons (hkey ▸ hfind) (hvalue ▸ hset span)

/-- A number within its bound is taken as it is. -/
lemma asNat_integer {n bound : Nat} (hn : n < bound) (expected : String) (span : Toml.Span) :
    asNat expected bound (.scalar (.integer n) span) = .ok n := by
  have hin : 0 ≤ (n : Int) ∧ (n : Int) < (bound : Int) := by omega
  rw [asNat, if_pos hin, Int.toNat_natCast]

-- The value is kept general here: a tactic that computes with the bound makes the kernel count.
lemma set_port {node : Node} {n : Nat} (h : asNat "u16" 65536 node = .ok n) (s : Server) :
    (do return { s with port := UInt16.ofNat (← asNat "u16" 65536 node) } : Except Misfit Server) =
      .ok { s with port := UInt16.ofNat n } := by
  rw [h]
  rfl

lemma set_channelCapacity {node : Node} {n : Nat} (h : asNat "usize" UInt64.size node = .ok n)
    (s : Sessions) : (do
      return { s with channelCapacity := UInt64.ofNat (← asNat "usize" UInt64.size node) } :
        Except Misfit Sessions) = .ok { s with channelCapacity := UInt64.ofNat n } := by
  rw [h]
  rfl

/-- Everything about the server is in the document. -/
lemma fill_server {s : Server} (h : List.Forall₂ Member.Fits s.members entries)
    (start : Server) : fill serverSettings start entries = .ok s := by
  obtain ⟨address, _, haddress, hrest, rfl⟩ := List.forall₂_cons_left_iff.1 h
  obtain ⟨port, _, hport, hlast, rfl⟩ := List.forall₂_cons_left_iff.1 hrest
  obtain ⟨level, _, hlevel, hnil, rfl⟩ := List.forall₂_cons_left_iff.1 hlast
  obtain rfl := List.forall₂_nil_left_iff.1 hnil
  have hbound : s.port.toNat < 65536 := UInt16.toNat_lt s.port
  calc fill serverSettings start [address, port, level]
      = fill serverSettings { start with bindAddress := s.bindAddress } [port, level] :=
        fill_member haddress rfl fun _ => rfl
    _ = fill serverSettings ⟨s.bindAddress, s.port, start.logLevel⟩ [level] := by
        refine fill_member hport rfl fun span => ?_
        have hset := set_port (asNat_integer hbound "u16" span)
          { start with bindAddress := s.bindAddress }
        rw [UInt16.ofNat_toNat] at hset
        exact hset
    _ = fill serverSettings s [] := fill_member hlevel rfl fun _ => rfl

/-- Everything about the sessions is in the document, except for a directory that is absent. -/
lemma fill_sessions {s : Sessions} (h : List.Forall₂ Member.Fits s.members entries)
    {start : Sessions} (hstart : start.outputLogDir = none) :
    fill sessionSettings start entries = .ok s := by
  obtain ⟨shell, _, hshell, hrest, rfl⟩ := List.forall₂_cons_left_iff.1 h
  obtain ⟨capacity, dirs, hcapacity, hlast, rfl⟩ := List.forall₂_cons_left_iff.1 hrest
  have hbound : s.channelCapacity.toNat < UInt64.size := UInt64.toNat_lt_size s.channelCapacity
  have hdirs : fill sessionSettings ⟨s.shell, s.channelCapacity, none⟩ dirs = .ok s := by
    rcases hdir : s.outputLogDir with _ | dir
    · rw [hdir] at hlast
      obtain rfl := List.forall₂_nil_left_iff.1 hlast
      rw [fill, List.foldlM_nil, ← hdir]
      rfl
    · rw [hdir] at hlast
      obtain ⟨entry, _, hentry, hnil, rfl⟩ := List.forall₂_cons_left_iff.1 hlast
      obtain rfl := List.forall₂_nil_left_iff.1 hnil
      calc fill sessionSettings ⟨s.shell, s.channelCapacity, none⟩ [entry]
          = fill sessionSettings ⟨s.shell, s.channelCapacity, some dir⟩ [] :=
            fill_member hentry rfl fun _ => rfl
        _ = .ok s := by
            rw [fill, List.foldlM_nil, ← hdir]
            rfl
  calc fill sessionSettings start (shell :: capacity :: dirs)
      = fill sessionSettings { start with shell := s.shell } (capacity :: dirs) :=
        fill_member hshell rfl fun _ => rfl
    _ = fill sessionSettings ⟨s.shell, s.channelCapacity, start.outputLogDir⟩ dirs := by
        refine fill_member hcapacity rfl fun span => ?_
        have hset := set_channelCapacity (asNat_integer hbound "usize" span)
          { start with shell := s.shell }
        rw [UInt64.ofNat_toNat] at hset
        exact hset
    _ = .ok s := by rw [hstart, hdirs]

lemma fill_tables {c : Config} (h : List.Forall₂ Table.Fits c.tables entries) (shell : String) :
    fill Config.settings (defaults shell) entries = .ok c := by
  obtain ⟨first, _, ⟨hserver, inner, span, hinner, hfits⟩, hrest, rfl⟩ :=
    List.forall₂_cons_left_iff.1 h
  obtain ⟨second, _, ⟨hsession, more, place, hmore, hall⟩, hnil, rfl⟩ :=
    List.forall₂_cons_left_iff.1 hrest
  obtain rfl := List.forall₂_nil_left_iff.1 hnil
  have hfirst : ∀ b : Config, (do
      let server ← group "struct ServerConfig" serverSettings b.server first.2
      return { b with server := server } : Except Misfit Config) =
        .ok { b with server := c.server } := by
    intro b
    rw [hinner, group, fill_server hfits]
    rfl
  have hsecond : ∀ b : Config, b.session.outputLogDir = none → (do
      let session ← group "struct SessionConfig" sessionSettings b.session second.2
      return { b with session := session } : Except Misfit Config) =
        .ok { b with session := c.session } := by
    intro b hb
    rw [hmore, group, fill_sessions hall hb]
    rfl
  rw [fill_cons (by rw [hserver]; rfl) (hfirst _), fill_cons (by rw [hsession]; rfl) (hsecond _ rfl)]
  rfl

/-- **A configuration comes back.**  If its capacity has 63 bits, it can be written as a document, and
whoever reads the document gets the same configuration, whatever the environment says about the
shell.  A larger capacity cannot be written. -/
theorem toDocument?_round_trip (c : Config) :
    (c.session.channelCapacity.toNat ≤ 0x7FFFFFFFFFFFFFFF →
      ∃ document, c.toDocument? = some document ∧
        ∀ env : Environment, parse env.defaultShell document.toList = .ok c) ∧
    (0x7FFFFFFFFFFFFFFF < c.session.channelCapacity.toNat → c.toDocument? = none) := by
  refine ⟨fun hc => ?_, fun hc => ?_⟩
  · have hlt : c.session.channelCapacity.toNat < 0x8000000000000000 := by omega
    refine ⟨String.ofList c.documentChars, if_pos hlt, fun env => ?_⟩
    obtain ⟨entries, hparse, hfits⟩ :=
      Toml.Document.exists_parse? (isWritten_tables hlt) (areDistinct_tables c)
    rw [parse, String.toList_ofList, documentChars_eq, hparse]
    exact fill_tables hfits env.defaultShell
  · exact if_neg (by omega)

end SharedTerminal.Config
