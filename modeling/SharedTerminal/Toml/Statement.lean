import SharedTerminal.Toml.Node

/-!
# TOML statements

A document is a list of statements, one a line: a key and its value, the header of a table in
brackets, or the header of one more table of an array in two brackets.  Blank lines and comments
say nothing.

Keys, values and whole lines are read here; what the statements add up to is another matter, apart
from the tables between braces, which are complete at once.
-/

namespace SharedTerminal.Toml

/-- A line of a document. -/
inductive Statement where
  /-- A value under a key, which may be led to by other keys. -/
  | assign (path : List Key) (key : Key) (value : Node)
  /-- The header of a table. -/
  | header (path : List Key) (key : Key) (span : Span)
  /-- The header of one more table of an array. -/
  | element (path : List Key) (key : Key) (span : Span)

namespace Statement

/-! ## Blanks and comments -/

/-- A text without the blanks at its front. -/
def skipBlanks (s : List Char) : List Char := s.dropWhile Text.isBlank

/-- Reads a comment, if one begins here.  It must not contain controls. -/
def skipComment (s : List Char) : List Char :=
  match s with
  | '#' :: rest => rest.dropWhile Text.isPlain
  | _ => s

/-- Reads what may stand after a statement, up to the end of the line. -/
def endLine? (s : List Char) : Option (List Char) :=
  match skipComment (skipBlanks s) with
  | [] => some []
  | rest => Text.afterLineEnd? rest

/-- Skips blanks, line ends and comments between the items of an array.  `fuel` bounds the number
of lines. -/
def skipLines? : Nat → List Char → Option (List Char)
  | 0, _ => none
  | fuel + 1, s =>
    match skipBlanks s with
    | '#' :: rest =>
      match Text.afterLineEnd? (rest.dropWhile Text.isPlain) with
      | some rest => skipLines? fuel rest
      | none => none
    | rest =>
      match Text.afterLineEnd? rest with
      | some rest => skipLines? fuel rest
      | none => some rest

/-- Skips blanks, line ends and comments. -/
def skip? (s : List Char) : Option (List Char) := skipLines? (s.length + 1) s

/-! ## Keys -/

/-- Whether a character can be part of a key without quotes. -/
def isBare (c : Char) : Bool := c.isAlphanum || c == '_' || c == '-'

/-- Reads a key without dots. -/
def simpleKey? (s : List Char) : Option (Key × List Char) :=
  let key (name : List Char) (rest : List Char) : Key × List Char :=
    (⟨String.ofList name, ⟨s.length, rest.length⟩⟩, rest)
  match s with
  | '"' :: rest => (Text.basic? rest).map fun (name, rest) => key name rest
  | '\'' :: rest => (Text.literal? rest).map fun (name, rest) => key name rest
  | _ =>
    let name := s.takeWhile isBare
    if name.isEmpty then none else some (key name (s.drop name.length))

/-- The keys that lead to a value, and the key of the value. -/
abbrev Path : Type := List Key × Key

/-- Reads keys between dots, with blanks around them.  `fuel` bounds their number. -/
def keys? : Nat → List Char → Option (Path × List Char)
  | 0, _ => none
  | fuel + 1, s =>
    match simpleKey? (skipBlanks s) with
    | none => none
    | some (key, rest) =>
      match skipBlanks rest with
      | '.' :: rest => (keys? fuel rest).map fun ((path, last), rest) => ((key :: path, last), rest)
      | rest => some (([], key), rest)

/-- Up to how many keys may lead to a value, and how deep values may be nested. -/
def greatestDepth : Nat := 79

/-- Reads a key, which may have dots. -/
def key? (s : List Char) : Option (Path × List Char) := keys? greatestDepth s

/-! ## Tables between braces -/

/-- Changes the entry under a name. -/
def replace (name : String) (node : Node) (entries : Entries) : Entries :=
  entries.map fun (key, old) => if key.name = name then (key, node) else (key, old)

/-- The value under a name. -/
def lookup? (name : String) (entries : Entries) : Option Node :=
  (entries.find? fun e => e.1.name = name).map (·.2)

/-- Adds a value under a path to the entries of a table between braces.  Only tables that dotted
keys of the same braces brought into being can be extended. -/
def insertInline? (key : Key) (value : Node) : List Key → Entries → Option Entries
  | [], entries =>
    match lookup? key.name entries with
    | some _ => none
    | none => some (entries ++ [(key, value)])
  | first :: path, entries =>
    match lookup? first.name entries with
    | none => do
      let inner ← insertInline? key value path []
      return entries ++ [(first, .table .dotted inner none)]
    | some (.table .dotted inner span) => do
      let inner ← insertInline? key value path inner
      return replace first.name (.table .dotted inner span) entries
    | some _ => none

/-! ## Values -/

/-- Reads the items of an array after its opening bracket, the last one first.  A comma may follow
the last item.  `fuel` bounds their number. -/
def items? (item : List Char → Option (Node × List Char)) :
    Nat → List Node → List Char → Option (List Node × List Char)
  | 0, _, _ => none
  | fuel + 1, items, s =>
    match skip? s with
    | none => none
    | some (']' :: rest) => some (items, rest)
    | some s =>
      match item s with
      | none => none
      | some (node, rest) =>
        match skip? rest with
        | some (',' :: rest) => items? item fuel (node :: items) rest
        | some (']' :: rest) => some (node :: items, rest)
        | _ => none

/-- Reads a key, an equals sign and a value. -/
def assignment? (item : List Char → Option (Node × List Char)) (s : List Char) :
    Option ((Path × Node) × List Char) := do
  let (path, rest) ← key? s
  match rest with
  | '=' :: rest =>
    let (node, rest) ← item (skipBlanks rest)
    return ((path, node), rest)
  | _ => none

/-- Reads the entries of a table between braces after the opening one.  No comma follows the last
entry, and all is on one line. -/
def members? (item : List Char → Option (Node × List Char)) :
    Nat → Entries → List Char → Option (Entries × List Char)
  | 0, _, _ => none
  | fuel + 1, entries, s =>
    match assignment? item s with
    | none => none
    | some (((path, key), node), rest) =>
      match insertInline? key node path entries with
      | none => none
      | some entries =>
        match skipBlanks rest with
        | ',' :: rest => members? item fuel entries rest
        | '\x7d' :: rest => some (entries, rest)
        | _ => none

/-- Reads a value with at most `depth` arrays and tables inside each other. -/
def value? : Nat → List Char → Option (Node × List Char)
  | 0, s => simple? s
  | depth + 1, s =>
    match s with
    | '[' :: inner => do
      let (items, rest) ← items? (value? depth) (s.length + 1) [] inner
      return (.array items.reverse ⟨s.length, rest.length⟩, rest)
    | '\x7b' :: inner =>
      match skipBlanks inner with
      | '\x7d' :: rest => some (.table .inline [] (some ⟨s.length, rest.length⟩), rest)
      | _ => do
        let (entries, rest) ← members? (value? depth) (s.length + 1) [] inner
        return (.table .inline entries (some ⟨s.length, rest.length⟩), rest)
    | _ => simple? s
where
  /-- Reads a value that has no parts. -/
  simple? (s : List Char) : Option (Node × List Char) :=
    match s with
    | c :: _ =>
      if c = '"' ∨ c = '\'' then
        (Text.read? s).map fun (t, rest) => (.text t ⟨s.length, rest.length⟩, rest)
      else (Scalar.read? s).map fun (v, rest) => (.scalar v ⟨s.length, rest.length⟩, rest)
    | [] => none

/-! ## Lines -/

/-- Reads a header after its brackets, up to the closing ones. -/
def headerKey? (close : List Char) (s : List Char) : Option (Path × List Char) := do
  let (path, rest) ← key? s
  let rest ← close.isPrefixOf? rest
  return (path, rest)

/-- Reads a line that says something. -/
def line? (s : List Char) : Option (Statement × List Char) :=
  match s with
  | '[' :: '[' :: inner => do
    let ((path, key), rest) ← headerKey? [']', ']'] inner
    return (.element path key ⟨s.length, rest.length⟩, ← endLine? rest)
  | '[' :: inner => do
    let ((path, key), rest) ← headerKey? [']'] inner
    return (.header path key ⟨s.length, rest.length⟩, ← endLine? rest)
  | _ => do
    let (((path, key), node), rest) ← assignment? (value? greatestDepth) s
    return (.assign path key node, ← endLine? rest)

/-- Reads the lines of a document.  `fuel` bounds their number. -/
def lines? : Nat → List Char → Option (List Statement)
  | 0, _ => none
  | fuel + 1, s =>
    match skipBlanks s with
    | [] => some []
    | '#' :: rest => do lines? fuel (← endLine? ('#' :: rest))
    | rest =>
      match Text.afterLineEnd? rest with
      | some rest => lines? fuel rest
      | none => do
        let (statement, rest) ← line? rest
        return statement :: (← lines? fuel rest)

/-- A text without the mark that can stand at its front. -/
def dropMark (s : List Char) : List Char :=
  match s with
  | '\uFEFF' :: rest => rest
  | _ => s

/-- Reads the statements of a document. -/
def readAll? (document : List Char) : Option (List Statement) :=
  lines? (document.length + 1) (dropMark document)

end Statement

end SharedTerminal.Toml
