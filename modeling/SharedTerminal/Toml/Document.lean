import SharedTerminal.Toml.Statement

/-!
# TOML documents

The statements of a document, read in order, make a tree.  At any time one table is current; values
go into it, and it takes its place in the tree when the next header comes or the document ends.

No table has two headers, and no value is given twice.  A table that only came into being on the
way to another can still get its header.  A dotted key can extend what dotted keys brought into
being, and nothing else.
-/

namespace SharedTerminal.Toml

open Statement (lookup? replace)

namespace Document

/-- The last of several tables under two brackets, changed. -/
def changeLast? (f : Entries → Option Entries) : List Node → Option (List Node)
  | [] => none
  | [.table origin entries span] => do return [.table origin (← f entries) span]
  | [_] => none
  | node :: rest => do return node :: (← changeLast? f rest)

/-- Changes the table at the end of a path, and makes those tables on the way that are missing.
A dotted key cannot go through a table with a header. -/
def descend? (dotted : Bool) (f : Origin → Entries → Option Entries) :
    Origin → List Key → Entries → Option Entries
  | origin, [], entries => f origin entries
  | _, key :: path, entries =>
    let made : Origin := if dotted then .dotted else .implicit
    match lookup? key.name entries with
    | none => do return entries ++ [(key, .table made (← descend? dotted f made path []) none)]
    | some (.table .inline _ _) => none
    | some (.table origin inner span) =>
      if dotted && origin = .header then none
      else do
        return replace key.name (.table origin (← descend? dotted f origin path inner) span) entries
    | some (.tables items) => do
      let items ← changeLast? (descend? dotted f .header path) items
      return replace key.name (.tables items) entries
    | some _ => none

/-- Adds a value to a table: the current one, or one that dotted keys brought into being. -/
def add? (path : List Key) (key : Key) (value : Node) (origin : Origin) (entries : Entries) :
    Option Entries :=
  if path.isEmpty || origin = .dotted then
    match lookup? key.name entries with
    | some _ => none
    | none => some (entries ++ [(key, value)])
  else none

/-- The table that is being filled. -/
structure Current where
  /-- Where it belongs: nowhere yet for the document itself. -/
  place : Option (List Key × Key)
  /-- Whether it is one more table of an array. -/
  isElement : Bool
  /-- What it holds. -/
  entries : Entries
  /-- Its header and what followed. -/
  span : Span

/-- A document that was read in part. -/
structure State where
  /-- The tables that are complete. -/
  root : Entries
  /-- The table that is being filled. -/
  current : Current

/-- Adds one more table to an array. -/
def addElement? (key : Key) (node : Node) (_ : Origin) (entries : Entries) : Option Entries :=
  match lookup? key.name entries with
  | none => some (entries ++ [(key, .tables [node])])
  | some (.tables items) => some (replace key.name (.tables (items ++ [node])) entries)
  | some _ => none

/-- Gives a table its place. -/
def addTable? (key : Key) (node : Node) (_ : Origin) (entries : Entries) : Option Entries :=
  match lookup? key.name entries with
  | none => some (entries ++ [(key, node)])
  | some (.table .implicit _ _) => some (replace key.name node entries)
  | some (.table .dotted _ _) => some (replace key.name node entries)
  | some _ => none

/-- Puts the current table into its place. -/
def close? (s : State) : Option Entries :=
  match s.current.place with
  | none => some s.current.entries
  | some (path, key) =>
    let node : Node := .table .header s.current.entries (some s.current.span)
    descend? false ((if s.current.isElement then addElement? else addTable?) key node) .header path
      s.root

/-- Takes the table for a header out of its parent, if it only came into being on the way. -/
def takeOut? (key : Key) (entries : Entries) : Option (Entries × Entries) :=
  match lookup? key.name entries with
  | none => some ([], entries)
  | some (.table .implicit inner _) => some (inner, entries.filter fun e => e.1.name ≠ key.name)
  | some _ => none

/-- What the table of a header holds already. -/
def inherited? (key : Key) : List Key → Entries → Option Entries
  | [], entries => (takeOut? key entries).map (·.1)
  | first :: path, entries =>
    match lookup? first.name entries with
    | some (.table _ inner _) => inherited? key path inner
    | some (.tables items) =>
      match items.getLast? with
      | some (.table _ inner _) => inherited? key path inner
      | _ => none
    | some _ => none
    | none => some []

/-- Makes sure that an array of tables is there. -/
def prepare? (key : Key) (_ : Origin) (entries : Entries) : Option Entries :=
  match lookup? key.name entries with
  | none => some (entries ++ [(key, .tables [])])
  | some (.tables _) => some entries
  | some _ => none

/-- Follows a statement. -/
def step? (s : State) : Statement → Option State
  | .assign path key value => do
    let entries ← descend? true (add? path key value) .header path s.current.entries
    let stop := ((value.span?).map Span.stop).getD s.current.span.stop
    return { s with current := { s.current with
      entries := entries, span := ⟨s.current.span.start, stop⟩ } }
  | .header path key span => do
    let root ← close? s
    let inner ← inherited? key path root
    let root ← descend? false (fun _ es => (takeOut? key es).map (·.2)) .header path root
    return ⟨root, ⟨some (path, key), false, inner, span⟩⟩
  | .element path key span => do
    let root ← close? s
    let root ← descend? false (prepare? key) .header path root
    return ⟨root, ⟨some (path, key), true, [], span⟩⟩

/-- The state before the first statement. -/
def start : State := ⟨[], ⟨none, false, [], ⟨0, 0⟩⟩⟩

/-- The tree of a list of statements. -/
def build? (statements : List Statement) : Option Entries := do
  close? (← statements.foldlM step? start)

/-- Reads a document. -/
def parse? (document : List Char) : Option Entries := do
  build? (← Statement.readAll? document)

end Document

end SharedTerminal.Toml
