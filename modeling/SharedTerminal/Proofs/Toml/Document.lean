import SharedTerminal.Toml.Document
import SharedTerminal.Proofs.Toml.Statement
import Mathlib.Data.List.Forall2

/-!
# TOML documents come back

The statements of plain tables make a tree with these tables and nothing else, as long as no name
is given twice.  While the statements are followed, the table that is being filled is not yet in its
place; `close?` is what the tree would be if it were put there now, and that is what
`foldlM_tables` is about.

The main statement is `exists_parse?_page`; `exists_parse?` is about tables alone.
-/

namespace SharedTerminal.Toml

/-- An entry is what a line of a table says. -/
def Member.Fits (m : Member) (entry : Key × Node) : Prop :=
  entry.1.name = m.key ∧ ∃ span, entry.2 = m.makes span

/-- An entry is a table with a header and what its lines say. -/
def Table.Fits (t : Table) (entry : Key × Node) : Prop :=
  entry.1.name = t.name ∧ ∃ inner span, entry.2 = .table .header inner span ∧
    List.Forall₂ Member.Fits t.members inner

/-- Several tables can be told apart, and so can the lines of each of them. -/
structure AreDistinct (tables : List Table) : Prop where
  /-- No two tables have one name. -/
  names : (tables.map Table.name).Nodup
  /-- No two lines of a table have one key. -/
  keys : ∀ t ∈ tables, (t.members.map Member.key).Nodup

/-- What is listed side by side has a counterpart. -/
lemma exists_mem_right {α β : Type} {R : α → β → Prop} {as : List α} {bs : List β}
    (h : List.Forall₂ R as bs) {a : α} (ha : a ∈ as) : ∃ b ∈ bs, R a b := by
  induction h with
  | nil => cases ha
  | @cons a' b as bs hab _ ih =>
    rcases List.mem_cons.1 ha with rfl | ha
    · exact ⟨b, List.mem_cons_self, hab⟩
    · obtain ⟨b', hb', hr⟩ := ih ha
      exact ⟨b', List.mem_cons_of_mem _ hb', hr⟩

lemma exists_mem_left {α β : Type} {R : α → β → Prop} {as : List α} {bs : List β}
    (h : List.Forall₂ R as bs) {b : β} (hb : b ∈ bs) : ∃ a ∈ as, R a b :=
  exists_mem_right h.flip hb

namespace Document

open Statement (lookup?)

variable {entries root : Entries} {s : State} {st : Statement} {m : Member} {t : Table}
  {name : String}

/-- The names of entries. -/
def names (entries : Entries) : List String := entries.map (·.1.name)

lemma lookup?_eq_none (h : name ∉ names entries) : lookup? name entries = none := by
  rw [lookup?, Option.map_eq_none_iff, List.find?_eq_none]
  intro entry hentry
  simp only [decide_eq_true_eq]
  exact fun heq => h (List.mem_map.2 ⟨entry, hentry, heq⟩)

/-! ## One statement -/

/-- A line adds its entry to the table that is being filled. -/
lemma step?_member (hst : m.Means st) (hfresh : m.key ∉ names s.current.entries) :
    ∃ entry span, m.Fits entry ∧ step? s st =
      some ⟨s.root, ⟨s.current.place, s.current.isElement, s.current.entries ++ [entry], span⟩⟩ := by
  obtain ⟨place, span, rfl⟩ := hst
  let stop := (((m.makes span).span?).map Span.stop).getD s.current.span.stop
  refine ⟨(⟨m.key, place⟩, m.makes span), ⟨s.current.span.start, stop⟩, ⟨rfl, span, rfl⟩, ?_⟩
  have hadd : descend? true (add? [] ⟨m.key, place⟩ (m.makes span)) .header []
      s.current.entries = some (s.current.entries ++ [(⟨m.key, place⟩, m.makes span)]) := by
    simp [descend?, add?, lookup?_eq_none hfresh]
  rw [step?, hadd]
  rfl

/-- A header puts the table that was filled into its place, and begins another one. -/
lemma step?_header (hst : t.Heads st) (hclose : close? s = some root)
    (hfresh : t.name ∉ names root) :
    ∃ key span, key.name = t.name ∧
      step? s st = some ⟨root, ⟨some ([], key), false, [], span⟩⟩ := by
  obtain ⟨place, span, rfl⟩ := hst
  have htake : takeOut? ⟨t.name, place⟩ root = some ([], root) := by
    rw [takeOut?, lookup?_eq_none hfresh]
  refine ⟨⟨t.name, place⟩, span, rfl, ?_⟩
  simp [step?, hclose, inherited?, htake, descend?]

lemma close?_table {key : Key} {span : Span} (hfresh : key.name ∉ names root) :
    close? ⟨root, ⟨some ([], key), false, entries, span⟩⟩ =
      some (root ++ [(key, .table .header entries (some span))]) := by
  simp [close?, descend?, addTable?, lookup?_eq_none hfresh]

/-! ## All statements -/

/-- The entries of lines have their keys. -/
lemma names_eq {members : List Member} (h : List.Forall₂ Member.Fits members entries) :
    names entries = members.map Member.key := by
  induction h with
  | nil => rfl
  | cons hentry _ ih => exact congrArg₂ List.cons hentry.1 ih

lemma foldlM_members {members : List Member} {sts : List Statement}
    (hsts : List.Forall₂ Member.Means members sts)
    (hfresh : ∀ m ∈ members, m.key ∉ names s.current.entries)
    (hnodup : (members.map Member.key).Nodup) :
    ∃ more span, List.Forall₂ Member.Fits members more ∧ sts.foldlM step? s =
      some ⟨s.root, ⟨s.current.place, s.current.isElement, s.current.entries ++ more, span⟩⟩ := by
  induction hsts generalizing s with
  | nil => exact ⟨[], s.current.span, .nil, by simp⟩
  | @cons m st members sts hst _ ih =>
    obtain ⟨hm, hfresh⟩ := List.forall_mem_cons.1 hfresh
    obtain ⟨hnew, hnodup⟩ := List.nodup_cons.1 hnodup
    obtain ⟨entry, span, hentry, hstep⟩ := step?_member hst hm
    -- The next keys are not among the old ones, and none is the one just added.
    have hfresh' : ∀ n ∈ members, n.key ∉ names (s.current.entries ++ [entry]) := by
      intro n hn hmem
      rw [names, List.map_append, List.mem_append] at hmem
      rcases hmem with hmem | hmem
      · exact hfresh n hn hmem
      · have hkey : n.key = m.key := (List.mem_singleton.1 hmem).trans hentry.1
        exact hnew (List.mem_map.2 ⟨n, hn, hkey⟩)
    obtain ⟨more, last, hmore, hfold⟩ := ih
      (s := ⟨s.root, ⟨s.current.place, s.current.isElement, s.current.entries ++ [entry], span⟩⟩)
      hfresh' hnodup
    refine ⟨entry :: more, last, .cons hentry hmore, ?_⟩
    rw [List.foldlM_cons, hstep]
    simp only [Option.bind_eq_bind, Option.bind_some, hfold, List.append_assoc,
      List.singleton_append]

/-- The statements of plain tables add these tables to what is there. -/
lemma foldlM_tables {tables : List Table} {parts : List (List Statement)}
    (hparts : List.Forall₂ Table.Means tables parts) (hclose : close? s = some root)
    (hfresh : ∀ t ∈ tables, t.name ∉ names root) (hdistinct : AreDistinct tables) :
    ∃ last more, parts.flatten.foldlM step? s = some last ∧
      close? last = some (root ++ more) ∧ List.Forall₂ Table.Fits tables more := by
  induction hparts generalizing s root with
  | nil => exact ⟨s, [], rfl, by rw [hclose, List.append_nil], .nil⟩
  | @cons t part tables parts hpart _ ih =>
    obtain ⟨ht, hfresh⟩ := List.forall_mem_cons.1 hfresh
    obtain ⟨hnew, hnames⟩ := List.nodup_cons.1 hdistinct.names
    obtain ⟨hkeys, hrest⟩ := List.forall_mem_cons.1 hdistinct.keys
    obtain ⟨st, sts, rfl, hhead, hsts⟩ := hpart
    obtain ⟨key, span, hkey, hstep⟩ := step?_header hhead hclose ht
    obtain ⟨inner, stop, hinner, hfold⟩ := foldlM_members
      (s := ⟨root, ⟨some ([], key), false, [], span⟩⟩) hsts (by simp [names]) hkeys
    -- The table is complete; from here on it counts as being in its place.
    have hdone : close? ⟨root, ⟨some ([], key), false, inner, stop⟩⟩ =
        some (root ++ [(key, .table .header inner (some stop))]) := close?_table (hkey ▸ ht)
    have hfresh' : ∀ u ∈ tables,
        u.name ∉ names (root ++ [(key, .table .header inner (some stop))]) := by
      intro u hu hmem
      rw [names, List.map_append, List.mem_append] at hmem
      rcases hmem with hmem | hmem
      · exact hfresh u hu hmem
      · have hname : u.name = t.name := (List.mem_singleton.1 hmem).trans hkey
        exact hnew (List.mem_map.2 ⟨u, hu, hname⟩)
    obtain ⟨last, more, hlast, hend, hmore⟩ := ih hdone hfresh' ⟨hnames, hrest⟩
    refine ⟨last, (key, .table .header inner (some stop)) :: more, ?_, ?_,
      .cons ⟨hkey, inner, some stop, rfl, hinner⟩ hmore⟩
    · rw [List.flatten_cons, List.cons_append, List.foldlM_cons, hstep]
      simp only [Option.bind_eq_bind, Option.bind_some, List.foldlM_append, hfold, List.nil_append,
        hlast]
    · rw [hend, List.append_assoc, List.singleton_append]

end Document

/-- All names of a document can be told apart. -/
structure Page.IsDistinct (p : Page) : Prop where
  /-- No line in front of the tables and no table have one name. -/
  names : (p.members.map Member.key ++ p.tables.map Table.name).Nodup
  /-- No two lines of a table have one key. -/
  keys : ∀ t ∈ p.tables, (t.members.map Member.key).Nodup

namespace Document

/-- **A document of lines and plain tables comes back**: it is read as a tree with these lines and
tables, in their order, and nothing else. -/
theorem exists_parse?_page {p : Page} (hwritten : p.IsWritten) (hdistinct : p.IsDistinct) :
    ∃ lines entries, parse? p.chars = some (lines ++ entries) ∧
      List.Forall₂ Member.Fits p.members lines ∧ List.Forall₂ Table.Fits p.tables entries := by
  obtain ⟨first, parts, hread, hfirst, hparts⟩ := Statement.exists_readAll? hwritten
  obtain ⟨hkeys, hnames, hapart⟩ := List.nodup_append.1 hdistinct.names
  obtain ⟨lines, span, hlines, hfold⟩ :=
    foldlM_members (s := start) hfirst (by simp [names, start]) hkeys
  -- What stands in front of the first header is the document itself, which is always in its place.
  have hclose : close? ⟨start.root, ⟨start.current.place, start.current.isElement,
      start.current.entries ++ lines, span⟩⟩ = some lines := rfl
  have hfresh : ∀ t ∈ p.tables, t.name ∉ names lines := by
    intro t ht hmem
    have hsame : names lines = p.members.map Member.key := names_eq hlines
    exact hapart t.name (hsame ▸ hmem) t.name (List.mem_map_of_mem ht) rfl
  obtain ⟨last, entries, htables, hend, hentries⟩ :=
    foldlM_tables hparts hclose hfresh ⟨hnames, hdistinct.keys⟩
  refine ⟨lines, entries, ?_, hlines, hentries⟩
  simp only [parse?, hread, build?, Option.bind_eq_bind, Option.bind_some, List.foldlM_append,
    hfold, htables, hend]

lemma exists_parse? {tables : List Table} (hwritten : ∀ t ∈ tables, t.IsWritten)
    (hdistinct : AreDistinct tables) :
    ∃ entries, parse? (Statement.tablesChars tables) = some entries ∧
      List.Forall₂ Table.Fits tables entries := by
  have hpage : Page.IsWritten ⟨[], tables⟩ := ⟨by simp, hwritten⟩
  obtain ⟨lines, entries, hparse, hlines, hentries⟩ :=
    exists_parse?_page hpage ⟨hdistinct.names, hdistinct.keys⟩
  obtain rfl := List.forall₂_nil_left_iff.1 hlines
  exact ⟨entries, hparse, hentries⟩

end Document

end SharedTerminal.Toml
