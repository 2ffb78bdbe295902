import SharedTerminal.Proofs.Config.Layers
import SharedTerminal.Proofs.Config.RoundTrip

/-!
# Partial configuration files

A file need not give every field, its tables and lines stand in any order, and there may be more
in it than a configuration knows.  A document *says a layer* if what stands under the keys of the
fields are the values of the layer and nothing else (`Layer.IsSaidBy`); what stands under other
names does not matter.  Such a document can be read, as every value that stands there is one that
its field admits, and then what it says is all that changes (`fill_document`).  Nothing makes up for
a value that its field does not admit: of the known keys no entry is passed over.

That a document says a layer can be seen on its lines (`Layer.IsWrittenIn`).  The main statement is
`parse_partial`.  A document in the sense of the reader is not quite what TOML allows: values can be
nested too deep for it, those of unknown keys as well (`parse_nested`).
-/

namespace SharedTerminal.Config

open Toml (Key Node Span Entries Member Table Page Origin)

variable {σ α : Type} {settings : List (Setting σ)} {setting : Setting σ} {start next : σ}
  {entry : Key × Node} {entries inner : Entries} {node : Node}

/-! ## The fields of a configuration -/

/-- A field of a configuration. -/
inductive Field where
  /-- The address to listen on. -/
  | bindAddress
  /-- The port to listen on. -/
  | port
  /-- What is logged. -/
  | logLevel
  /-- The shell for commands. -/
  | shell
  /-- How many chunks each channel holds at most. -/
  | channelCapacity
  /-- The directory for output logs. -/
  | outputLogDir
deriving DecidableEq, Repr

namespace Field

variable {f g : Field}

/-- The name of the table in which a field stands. -/
def table : Field → String
  | bindAddress | port | logLevel => "server"
  | shell | channelCapacity | outputLogDir => "session"

/-- The key of a field in its table. -/
def key : Field → String
  | bindAddress => "bind_address"
  | port => "port"
  | logLevel => "log_level"
  | shell => "shell"
  | channelCapacity => "channel_capacity"
  | outputLogDir => "output_log_dir"

/-- A value has the type of a field and is in its range. -/
def Admits : Field → Node → Prop
  | port, node => ∃ n : Nat, n < 65536 ∧ ∃ span, node = .scalar (.integer n) span
  | channelCapacity, node => ∃ n : Nat, n < UInt64.size ∧ ∃ span, node = .scalar (.integer n) span
  | _, node => ∃ a span, node = .text a span

/-- A value stands under the key of a field, in a table under the name of its table. -/
def StandsIn (f : Field) (entries : Entries) (node : Node) : Prop :=
  ∃ name key origin inner span, (name, .table origin inner span) ∈ entries ∧ name.name = f.table ∧
    (key, node) ∈ inner ∧ key.name = f.key

/-- A line stands under the header of the table of a field and has its key. -/
def HasLine (f : Field) (p : Page) (m : Member) : Prop :=
  ∃ t ∈ p.tables, t.name = f.table ∧ m ∈ t.members ∧ m.key = f.key

lemma key_injective (h : f.key = g.key) : f = g := by
  cases f <;> cases g <;> first | rfl | exact absurd h (by decide)

lemma table_eq (f : Field) : f.table = "server" ∨ f.table = "session" := by
  cases f <;> simp [table]

end Field

namespace Layer

variable {l : Layer} {f : Field}

/-- The value that a layer gives to a field, when it is known where it stands. -/
def value? (l : Layer) : Field → Option (Span → Node)
  | .bindAddress => l.bindAddress.map .text
  | .port => l.port.map fun n => .scalar (.integer n.toNat)
  | .logLevel => l.logLevel.map .text
  | .shell => l.shell.map .text
  | .channelCapacity => l.channelCapacity.map fun n => .scalar (.integer n.toNat)
  | .outputLogDir => l.outputLogDir.map .text

/-- A document says what a layer says about the fields, and whatever else. -/
structure IsSaidBy (l : Layer) (entries : Entries) : Prop where
  /-- What has the name of a table of a configuration is a table. -/
  tables : ∀ e ∈ entries, ∀ f : Field, e.1.name = f.table →
    ∃ origin inner span, e.2 = .table origin inner span
  /-- What stands under the key of a field is what the layer gives it. -/
  gives : ∀ f node, f.StandsIn entries node → ∃ make span, l.value? f = some make ∧ node = make span
  /-- What the layer gives a field stands under its key. -/
  stands : ∀ f make, l.value? f = some make → ∃ span, f.StandsIn entries (make span)

/-- The lines of a document say what a layer says about the fields, and whatever else. -/
structure IsWrittenIn (l : Layer) (p : Page) : Prop where
  /-- No line in front of the tables has the name of a table of a configuration. -/
  front : ∀ m ∈ p.members, ∀ f : Field, m.key ≠ f.table
  /-- The lines of a field are the value that the layer gives it, if it gives one. -/
  lines : ∀ f make, l.value? f = some make ↔ ∃ m, f.HasLine p m ∧ m.makes = make

/-- What a layer gives to a field has its type and is in its range. -/
lemma admits_value? {make : Span → Node} (h : l.value? f = some make) (span : Span) :
    f.Admits (make span) := by
  cases f <;> obtain ⟨a, -, rfl⟩ := Option.map_eq_some_iff.1 h
  case port => exact ⟨a.toNat, UInt16.toNat_lt a, span, rfl⟩
  case channelCapacity => exact ⟨a.toNat, UInt64.toNat_lt_size a, span, rfl⟩
  all_goals exact ⟨a, span, rfl⟩

lemma IsSaidBy.admits (h : l.IsSaidBy entries) (hf : f.StandsIn entries node) :
    f.Admits node := by
  obtain ⟨make, span, hmake, rfl⟩ := h.gives f node hf
  exact admits_value? hmake span

end Layer

/-! ## Which tables can be read -/

/-- An entry with an unknown key is passed over. -/
lemma fill_unknown (hfind : settings.find? (fun s => s.name == entry.1.name) = none) :
    fill settings start (entry :: entries) = fill settings start entries := by
  rw [fill, List.foldlM_cons]
  simp only [hfind]
  rfl

/-- A table can be read if every setting takes what stands under its name. -/
lemma exists_fill (h : ∀ e ∈ entries, ∀ s ∈ settings, s.name = e.1.name →
    ∀ state, ∃ after, s.set state e.2 = .ok after) (start : σ) :
    ∃ next, fill settings start entries = .ok next := by
  induction entries generalizing start with
  | nil => exact ⟨start, rfl⟩
  | cons entry entries ih =>
    obtain ⟨hentry, hrest⟩ := List.forall_mem_cons.1 h
    rcases hfind : settings.find? (fun s => s.name == entry.1.name) with _ | s
    · rw [fill_unknown hfind]
      exact ih hrest start
    · have hname : s.name = entry.1.name := by simpa using List.find?_some hfind
      obtain ⟨middle, hset⟩ := hentry s (List.mem_of_find?_eq_some hfind) hname start
      rw [fill_cons hfind hset]
      exact ih hrest middle

/-- If a table can be read, the setting of each of its entries took what stands there. -/
lemma exists_set_of_fill (h : fill settings start entries = .ok next) (he : entry ∈ entries)
    (hfind : settings.find? (fun s => s.name == entry.1.name) = some setting) :
    ∃ before after, setting.set before entry.2 = .ok after := by
  induction entries generalizing start with
  | nil => cases he
  | cons first entries ih =>
    rcases hfirst : settings.find? (fun s => s.name == first.1.name) with _ | s
    · rcases List.mem_cons.1 he with rfl | he
      · rw [hfirst] at hfind
        cases hfind
      · exact ih (fill_unknown hfirst ▸ h) he
    · rcases hset : s.set start first.2 with m | middle
      · rw [fill, List.foldlM_cons] at h
        simp only [hfirst, hset] at h
        cases h
      · rcases List.mem_cons.1 he with rfl | he
        · obtain rfl : s = setting := Option.some.inj (hfirst.symm.trans hfind)
          exact ⟨start, middle, hset⟩
        · exact ih (fill_cons hfirst hset ▸ h) he

/-! ## What the fields of a table admit -/

lemma exists_bind_pure {ε α β : Type} {x : Except ε α} {f : α → β} :
    (∃ b, (x >>= fun a => pure (f a)) = .ok b) ↔ ∃ a, x = .ok a := by
  rcases x with e | a <;> simp [bind, Except.bind, pure, Except.pure]

lemma exists_asText {expected : String} :
    (∃ a, asText expected node = .ok a) ↔ ∃ a span, node = .text a span := by
  rcases node with ⟨_, _⟩ | _ | _ | _ | _ <;> simp [asText]

lemma exists_asNat {expected : String} {bound : Nat} :
    (∃ n, asNat expected bound node = .ok n) ↔
      ∃ n : Nat, n < bound ∧ ∃ span, node = .scalar (.integer n) span := by
  constructor
  · rintro ⟨n, h⟩
    unfold asNat at h
    split at h
    · next z span =>
      split at h
      · next hin =>
        have hz : (z.toNat : Int) = z := Int.toNat_of_nonneg hin.1
        exact ⟨z.toNat, by omega, span, by rw [hz]⟩
      · cases h
    · cases h
  · rintro ⟨n, hn, span, rfl⟩
    exact ⟨n, asNat_integer hn expected span⟩

/-- The settings of a table are those of its fields. -/
structure AreOfTable (settings : List (Setting σ)) (table : String) : Prop where
  /-- Every setting is that of a field, and takes what the field admits. -/
  takes : ∀ s ∈ settings, ∃ f : Field, f.table = table ∧ f.key = s.name ∧
    ∀ state node, (∃ after, s.set state node = .ok after) ↔ f.Admits node
  /-- Every field has a setting. -/
  finds : ∀ f : Field, f.table = table →
    ∃ s, settings.find? (fun s => s.name == f.key) = some s

lemma areOfTable_server : AreOfTable serverSettings "server" := by
  refine ⟨fun s hs => ?_, fun f hf => ?_⟩
  · simp only [serverSettings, List.mem_cons, List.not_mem_nil, or_false] at hs
    rcases hs with rfl | rfl | rfl
    · exact ⟨.bindAddress, rfl, rfl, fun _ _ => exists_bind_pure.trans exists_asText⟩
    · exact ⟨.port, rfl, rfl, fun _ _ => exists_bind_pure.trans exists_asNat⟩
    · exact ⟨.logLevel, rfl, rfl, fun _ _ => exists_bind_pure.trans exists_asText⟩
  · cases f
    case bindAddress | port | logLevel => exact ⟨_, rfl⟩
    all_goals exact absurd hf (by decide)

lemma areOfTable_session : AreOfTable sessionSettings "session" := by
  refine ⟨fun s hs => ?_, fun f hf => ?_⟩
  · simp only [sessionSettings, List.mem_cons, List.not_mem_nil, or_false] at hs
    rcases hs with rfl | rfl | rfl
    · exact ⟨.shell, rfl, rfl, fun _ _ => exists_bind_pure.trans exists_asText⟩
    · exact ⟨.channelCapacity, rfl, rfl, fun _ _ => exists_bind_pure.trans exists_asNat⟩
    · exact ⟨.outputLogDir, rfl, rfl, fun _ _ => exists_bind_pure.trans exists_asText⟩
  · cases f
    case shell | channelCapacity | outputLogDir => exact ⟨_, rfl⟩
    all_goals exact absurd hf (by decide)

namespace AreOfTable

variable {table : String} {f : Field}

/-- A table can be read if its fields admit what stands under their keys. -/
lemma exists_fill (h : AreOfTable settings table)
    (hadmits : ∀ f : Field, f.table = table → ∀ e ∈ inner, e.1.name = f.key → f.Admits e.2)
    (start : σ) : ∃ next, fill settings start inner = .ok next := by
  refine Config.exists_fill (fun e he s hs hname state => ?_) start
  obtain ⟨f, hf, hkey, htakes⟩ := h.takes s hs
  exact (htakes state e.2).2 (hadmits f hf e he (hname.symm.trans hkey.symm))

/-- If a table can be read, its fields admit what stands under their keys. -/
lemma admits_of_fill (h : AreOfTable settings table)
    (hfill : fill settings start inner = .ok next) (hf : f.table = table) (he : entry ∈ inner)
    (hkey : entry.1.name = f.key) : f.Admits entry.2 := by
  obtain ⟨s, hfind⟩ := h.finds f hf
  obtain ⟨before, after, hset⟩ := exists_set_of_fill hfill he (hkey ▸ hfind)
  have hname : s.name = f.key := by simpa using List.find?_some hfind
  obtain ⟨g, -, hg, htakes⟩ := h.takes s (List.mem_of_find?_eq_some hfind)
  obtain rfl : g = f := Field.key_injective (hg.trans hname)
  exact (htakes before entry.2).1 ⟨after, hset⟩

end AreOfTable

/-! ## Which documents can be read -/

/-- A document can be read if its tables are tables and its fields admit what stands there. -/
lemma exists_fill_settings
    (htables : ∀ e ∈ entries, ∀ f : Field, e.1.name = f.table →
      ∃ origin inner span, e.2 = .table origin inner span)
    (hadmits : ∀ (f : Field) (node : Node), f.StandsIn entries node → f.Admits node)
    (start : Config) : ∃ c, fill Config.settings start entries = .ok c := by
  -- The fields of a table that is an entry of the document stand in the document.
  have hinner : ∀ (name : Key) origin inner span, (name, .table origin inner span) ∈ entries →
      ∀ f : Field, f.table = name.name → ∀ e ∈ inner, e.1.name = f.key → f.Admits e.2 :=
    fun name origin inner span hmem f hf e he hkey =>
      hadmits f e.2 ⟨name, e.1, origin, inner, span, hmem, hf.symm, he, hkey⟩
  refine exists_fill (fun e he s hs hname state => ?_) start
  obtain ⟨name, node⟩ := e
  simp only [Config.settings, List.mem_cons, List.not_mem_nil, or_false] at hs
  rcases hs with rfl | rfl
  · obtain ⟨origin, inner, span, rfl⟩ := htables _ he .bindAddress hname.symm
    have hread := hinner name origin inner span he
    rw [← hname] at hread
    exact exists_bind_pure.2 (areOfTable_server.exists_fill hread state.server)
  · obtain ⟨origin, inner, span, rfl⟩ := htables _ he .shell hname.symm
    have hread := hinner name origin inner span he
    rw [← hname] at hread
    exact exists_bind_pure.2 (areOfTable_session.exists_fill hread state.session)

/-- If a document can be read, its fields admit what stands there. -/
lemma admits_of_fill_settings {start c : Config} {f : Field}
    (h : fill Config.settings start entries = .ok c) (hf : f.StandsIn entries node) :
    f.Admits node := by
  obtain ⟨name, key, origin, inner, span, hmem, hname, hinner, hkey⟩ := hf
  rcases f.table_eq with htable | htable
  · have hfind : Config.settings.find? (fun s => s.name == name.name) = Config.settings[0]? := by
      rw [hname, htable]
      rfl
    obtain ⟨before, after, hset⟩ := exists_set_of_fill h hmem hfind
    obtain ⟨server, hserver, -⟩ := bind_pure_eq_ok.1 hset
    exact areOfTable_server.admits_of_fill hserver htable hinner hkey
  · have hfind : Config.settings.find? (fun s => s.name == name.name) = Config.settings[1]? := by
      rw [hname, htable]
      rfl
    obtain ⟨before, after, hset⟩ := exists_set_of_fill h hmem hfind
    obtain ⟨session, hsession, -⟩ := bind_pure_eq_ok.1 hset
    exact areOfTable_session.admits_of_fill hsession htable hinner hkey

/-! ## What a document says -/

lemma mem_of_under {α : Type} {key : String} {read : Node → Option α} {a : α}
    (h : under key read entries = some a) : ∃ e ∈ entries, e.1.name = key ∧ read e.2 = some a := by
  have hmem := List.mem_of_getLast? h
  obtain ⟨⟨k, node⟩, he, hread⟩ := List.mem_filterMap.1 hmem
  by_cases hkey : k.name = key
  · exact ⟨(k, node), he, hkey, (if_pos hkey).symm.trans hread⟩
  · exact absurd ((if_neg hkey).symm.trans hread) (by simp)

lemma isSome_under {key : String} {read : Node → Option α} (he : entry ∈ entries)
    (hkey : entry.1.name = key) (hread : (read entry.2).isSome) :
    (under key read entries).isSome := by
  obtain ⟨a, ha⟩ := Option.isSome_iff_exists.1 hread
  rw [under, List.getLast?_isSome]
  exact List.ne_nil_of_mem (List.mem_filterMap.2 ⟨entry, he, (if_pos hkey).trans ha⟩)

namespace Layer.IsSaidBy

variable {l : Layer} {f : Field} {place : Nat} {read : Node → Option α} {write : α → Span → Node}

/-- What is read under the key of a field is what the layer gives it. -/
lemma under_eq (h : l.IsSaidBy entries) {value : Option α} (hvalue : l.value? f = value.map write)
    (hread : ∀ a span, read (write a span) = some a) :
    under f.table (inTable f.key place read) entries = value := by
  -- Whatever is read stands there, and so the layer gives it.
  have hsome : ∀ a, under f.table (inTable f.key place read) entries = some a → value = some a := by
    intro a ha
    obtain ⟨⟨name, node⟩, hmem, hname, hinner⟩ := mem_of_under ha
    obtain ⟨origin, inner, span, rfl⟩ := h.tables _ hmem f hname
    obtain ⟨⟨key, node⟩, hnode, hkey, hnode_read⟩ := mem_of_under hinner
    obtain ⟨make, spot, hmake, rfl⟩ :=
      h.gives f node ⟨name, key, origin, inner, span, hmem, hname, hnode, hkey⟩
    obtain ⟨b, rfl, rfl⟩ := Option.map_eq_some_iff.1 (hvalue.symm.trans hmake)
    rw [← hnode_read, hread]
  rcases hvalue_eq : value with _ | a
  · rcases hunder : under f.table (inTable f.key place read) entries with _ | b
    · rfl
    · exact absurd (hsome b hunder) (by simp [hvalue_eq])
  · obtain ⟨spot, name, key, origin, inner, span, hmem, hname, hnode, hkey⟩ :=
      h.stands f (write a) (by rw [hvalue, hvalue_eq, Option.map_some])
    have hisSome : (under f.table (inTable f.key place read) entries).isSome :=
      isSome_under hmem hname (isSome_under hnode hkey (by rw [hread]; rfl))
    obtain ⟨b, hb⟩ := Option.isSome_iff_exists.1 hisSome
    rw [hb, ← hsome b hb, hvalue_eq]

lemma ofEntries_eq (h : l.IsSaidBy entries) : Layer.ofEntries entries = l := by
  have htext : ∀ a span, text? (.text a span) = some a := fun _ _ => rfl
  have hnarrow : ∀ (n : UInt16) span,
      (natBelow? 65536 (.scalar (.integer n.toNat) span)).map UInt16.ofNat = some n := by
    intro n span
    rw [natBelow?_eq_some (asNat_integer (UInt16.toNat_lt n) "u16" span), Option.map_some,
      UInt16.ofNat_toNat]
  have hwide : ∀ (n : UInt64) span,
      (natBelow? UInt64.size (.scalar (.integer n.toNat) span)).map UInt64.ofNat = some n := by
    intro n span
    rw [natBelow?_eq_some (asNat_integer (UInt64.toNat_lt_size n) "usize" span), Option.map_some,
      UInt64.ofNat_toNat]
  have haddress : under "server" (inTable "bind_address" 0 text?) entries = l.bindAddress :=
    h.under_eq (f := .bindAddress) rfl htext
  have hport : under "server" (inTable "port" 1 fun node => (natBelow? 65536 node).map UInt16.ofNat)
      entries = l.port := h.under_eq (f := .port) rfl hnarrow
  have hlevel : under "server" (inTable "log_level" 2 text?) entries = l.logLevel :=
    h.under_eq (f := .logLevel) rfl htext
  have hshell : under "session" (inTable "shell" 0 text?) entries = l.shell :=
    h.under_eq (f := .shell) rfl htext
  have hcapacity : under "session" (inTable "channel_capacity" 1
      fun node => (natBelow? UInt64.size node).map UInt64.ofNat) entries = l.channelCapacity :=
    h.under_eq (f := .channelCapacity) rfl hwide
  have hdir : under "session" (inTable "output_log_dir" 2 text?) entries = l.outputLogDir :=
    h.under_eq (f := .outputLogDir) rfl htext
  rw [Layer.ofEntries, haddress, hport, hlevel, hshell, hcapacity, hdir]

/-- A document that says a layer can be read, and the layer is all that it changes. -/
lemma parse_eq {shell : String} {document : List Char}
    (htree : Toml.Document.parse? document = some entries) (h : l.IsSaidBy entries) :
    parse shell document = .ok (l.on (defaults shell)) := by
  obtain ⟨c, hc⟩ := exists_fill_settings h.tables (fun _ _ => h.admits) (defaults shell)
  rw [parse, htree]
  exact hc.trans (congrArg Except.ok (h.ofEntries_eq ▸ fill_document hc))

end Layer.IsSaidBy

/-- Lines say in the tree of the document what they say. -/
lemma Layer.IsWrittenIn.isSaidBy {l : Layer} {p : Page} {lines : Entries}
    (h : l.IsWrittenIn p) (hlines : List.Forall₂ Member.Fits p.members lines)
    (htables : List.Forall₂ Table.Fits p.tables entries) : l.IsSaidBy (lines ++ entries) := by
  -- What has the name of a table of a configuration stands under a header.
  have hheader : ∀ e ∈ lines ++ entries, ∀ f : Field, e.1.name = f.table →
      ∃ t ∈ p.tables, t.Fits e := by
    intro e he f hname
    rcases List.mem_append.1 he with he | he
    · obtain ⟨m, hm, hfits⟩ := Toml.exists_mem_left hlines he
      exact absurd (hfits.1.symm.trans hname) (h.front m hm f)
    · exact Toml.exists_mem_left htables he
  refine ⟨fun e he f hname => ?_, fun f node hf => ?_, fun f make hmake => ?_⟩
  · obtain ⟨t, -, -, inner, span, htable, -⟩ := hheader e he f hname
    exact ⟨.header, inner, span, htable⟩
  · obtain ⟨name, key, origin, inner, span, hmem, hname, hnode, hkey⟩ := hf
    obtain ⟨t, ht, htname, _, _, htable, hmembers⟩ := hheader _ hmem f hname
    obtain ⟨-, rfl, -⟩ := Node.table.inj htable
    obtain ⟨m, hm, hmkey, place, hvalue⟩ := Toml.exists_mem_left hmembers hnode
    have hline : f.HasLine p m := ⟨t, ht, htname.symm.trans hname, hm, hmkey.symm.trans hkey⟩
    exact ⟨m.makes, place, (h.lines f m.makes).2 ⟨m, hline, rfl⟩, hvalue⟩
  · obtain ⟨m, ⟨t, ht, htname, hm, hmkey⟩, rfl⟩ := (h.lines f make).1 hmake
    obtain ⟨⟨name, _⟩, hmem, hname, inner, span, rfl, hmembers⟩ := Toml.exists_mem_right htables ht
    obtain ⟨⟨key, _⟩, hnode, hkey, place, rfl⟩ := Toml.exists_mem_right hmembers hm
    exact ⟨place, name, key, .header, inner, span, List.mem_append_right _ hmem,
      hname.trans htname, hnode, hkey.trans hmkey⟩

/-! ## Reading a partial file -/

/-- **A file changes what it says, and a value that does not fit spoils it.**

If the tables and lines of a file give values to some of the fields, in any order and among any
others, then the configuration is the default one with these values in their places.  The same is
true of every document that the reader makes out, however it is written.  A document in which a
value does not fit its field cannot be read, whatever else stands in it. -/
theorem parse_partial (env : Environment) :
    (∀ (p : Page) (l : Layer), p.IsWritten → p.IsDistinct → l.IsWrittenIn p →
      parse env.defaultShell p.chars = .ok (l.on (defaults env.defaultShell))) ∧
    (∀ document entries (l : Layer), Toml.Document.parse? document = some entries →
      l.IsSaidBy entries →
        parse env.defaultShell document = .ok (l.on (defaults env.defaultShell))) ∧
    (∀ document, (∀ entries, Toml.Document.parse? document = some entries →
        ∃ (f : Field) (node : Node), f.StandsIn entries node ∧ ¬ f.Admits node) →
      ∃ m, parse env.defaultShell document = .error m) := by
  refine ⟨fun p l hwritten hdistinct hl => ?_, fun document entries l htree hl => hl.parse_eq htree,
    fun document hmisfit => ?_⟩
  · obtain ⟨lines, entries, htree, hlines, htables⟩ :=
      Toml.Document.exists_parse?_page hwritten hdistinct
    exact (hl.isSaidBy hlines htables).parse_eq htree
  · rcases hread : parse env.defaultShell document with m | c
    · exact ⟨m, rfl⟩
    · rcases htree : Toml.Document.parse? document with _ | entries
      · simp only [parse, htree] at hread
        cases hread
      · obtain ⟨f, node, hf, hnot⟩ := hmisfit entries htree
        simp only [parse, htree] at hread
        exact absurd (admits_of_fill_settings hread hf) hnot

/-- A file with a few foreign lines, in which the tables stand the other way round. -/
def motley : Page :=
  ⟨[textMember "flavour" "vanilla"],
    [⟨"session", [textMember "output_log_dir" "/var/log"]⟩,
      ⟨"extra", [numberMember "port" 1]⟩,
      ⟨"server", [textMember "flavour" "none", numberMember "port" 9000]⟩]⟩

theorem parse_motley :
    parse (Environment.defaultShell ⟨none, none, none, some "", none, none⟩) motley.chars =
      .ok ⟨⟨"127.0.0.1", 9000, "info"⟩, ⟨"/bin/sh", 1024, some "/var/log"⟩⟩ := by
  have hwritten : motley.IsWritten := by
    refine ⟨fun m hm => ?_, fun t ht => ?_⟩
    · obtain rfl := List.mem_singleton.1 hm
      exact isWritten_textMember (.of_all (by decide)) _
    · simp only [motley, List.mem_cons, List.not_mem_nil, or_false] at ht
      rcases ht with rfl | rfl | rfl
      · refine ⟨.of_all (by decide), fun m hm => ?_⟩
        obtain rfl := List.mem_singleton.1 hm
        exact isWritten_textMember (.of_all (by decide)) _
      · refine ⟨.of_all (by decide), fun m hm => ?_⟩
        obtain rfl := List.mem_singleton.1 hm
        exact isWritten_numberMember (.of_all (by decide)) (by decide)
      · refine ⟨.of_all (by decide), fun m hm => ?_⟩
        simp only [List.mem_cons, List.not_mem_nil, or_false] at hm
        rcases hm with rfl | rfl
        · exact isWritten_textMember (.of_all (by decide)) _
        · exact isWritten_numberMember (.of_all (by decide)) (by decide)
  have hdistinct : motley.IsDistinct := ⟨by decide, by decide⟩
  let l : Layer := { port := some 9000, outputLogDir := some "/var/log" }
  have hlayer : l.IsWrittenIn motley := by
    refine ⟨fun m hm f => ?_, fun f make => ?_⟩
    · obtain rfl := List.mem_singleton.1 hm
      cases f <;> decide
    · cases f <;> simp [l, Layer.value?, Field.HasLine, Field.table, Field.key, motley, textMember,
        numberMember, or_and_right, exists_or, and_assoc]
  exact (parse_partial _).1 motley _ hwritten hdistinct hlayer

/-! ## The limits of the reader -/

/-- The reader follows values only so deep, whatever key they stand under. -/
lemma parse_nested {name : List Char} (hname : Toml.Statement.IsBareName name) {n : Nat}
    (hn : Toml.Statement.greatestDepth < n) (shell : String) (rest : List Char) :
    parse shell (name ++ [' ', '=', ' '] ++ List.replicate n '[' ++ rest) =
      .error ⟨.malformed, none⟩ := by
  obtain ⟨k, rfl⟩ : ∃ k, n = k + 1 := ⟨n - 1, by omega⟩
  have hblank : Toml.Statement.skipBlanks (' ' :: (List.replicate (k + 1) '[' ++ rest)) =
      List.replicate (k + 1) '[' ++ rest := rfl
  have hunread : Toml.Statement.value? Toml.Statement.greatestDepth
      (Toml.Statement.skipBlanks (' ' :: (List.replicate (k + 1) '[' ++ rest))) = none := by
    rw [hblank]
    exact Toml.Statement.value?_nested hn rest
  have hchars : name ++ [' ', '=', ' '] ++ List.replicate (k + 1) '[' ++ rest =
      name ++ ' ' :: '=' :: ' ' :: (List.replicate (k + 1) '[' ++ rest) := by simp
  rw [hchars, parse, Toml.Document.parse?, Toml.Statement.readAll?_eq_none hname hunread]
  rfl

/-- An unknown key spoils a document if its value is too deep. -/
theorem unknown_key_can_spoil :
    parse (Environment.defaultShell ⟨none, none, none, none, none, none⟩)
      (['x'] ++ [' ', '=', ' '] ++ List.replicate 200 '[' ++
        (List.replicate 200 ']' ++ ['\n'])) = .error ⟨.malformed, none⟩ :=
  parse_nested (.of_all (by decide)) (by decide) _ _

end SharedTerminal.Config
