import SharedTerminal.Toml.Number
import SharedTerminal.Shape
import SharedTerminal.Text.Utf8

/-!
# TOML documents as trees

A document is a tree of tables.  Every value, and every table that has a header or braces of its
own, remembers where in the text it stands, so that an error can point there.  A table that comes
into being on the way to another, by a dotted key or a longer header, has no such place; the key
under which it was first met has one.
-/

namespace SharedTerminal.Toml

/-- A part of a document.  Both ends are given by how many characters are left from there on. -/
structure Span where
  /-- The characters left at the front of the part. -/
  start : Nat
  /-- The characters left behind the part. -/
  stop : Nat
deriving DecidableEq, Repr

namespace Span

/-- The number of bytes in front of the last `left` characters of a document. -/
def offset (document : List Char) (left : Nat) : Nat :=
  (Utf8.encode (document.take (document.length - left))).length

/-- The ends of a part, in bytes from the front of the document. -/
def bytes (document : List Char) (s : Span) : Nat × Nat :=
  (offset document s.start, offset document s.stop)

end Span

/-- A key, and where it stands. -/
structure Key where
  /-- The name. -/
  name : String
  /-- Where it stands. -/
  span : Span
deriving DecidableEq, Repr

/-- How a table came into being. -/
inductive Origin where
  /-- By a header of its own, or as the document. -/
  | header
  /-- On the way to the table of a longer header. -/
  | implicit
  /-- By a dotted key. -/
  | dotted
  /-- Between braces. -/
  | inline
deriving DecidableEq, Repr

/-- A value of a document. -/
inductive Node where
  /-- A string. -/
  | text (value : String) (span : Span)
  /-- A truth value, a number, a date or a time. -/
  | scalar (value : Scalar) (span : Span)
  /-- An array. -/
  | array (items : List Node) (span : Span)
  /-- A table. -/
  | table (origin : Origin) (entries : List (Key × Node)) (span : Option Span)
  /-- The tables under headers in two brackets, in order. -/
  | tables (items : List Node)

/-- The entries of a table. -/
abbrev Entries : Type := List (Key × Node)

namespace Node

/-- Where a value stands, if it has a place of its own. -/
def ownSpan? : Node → Option Span
  | text _ s => some s
  | scalar _ s => some s
  | array _ s => some s
  | table _ _ s => s
  | tables _ => none

/-- Where a value stands, if it has a place of its own; several tables stand from the first to the
last of them. -/
def span? : Node → Option Span
  | tables items =>
    match items.head?.bind ownSpan?, items.getLast?.bind ownSpan? with
    | some first, some last => some ⟨first.start, last.stop⟩
    | _, _ => none
  | node => node.ownSpan?

/-- In errors numbers are always written positionally. -/
def numberLayout : Binary64.Layout :=
  ⟨none, none, fun x => if x = .notANumber then "NaN" else "inf"⟩

/-- What an error says was found. -/
def found : Node → Shape.Found
  | text s _ => .text s
  | scalar (.boolean b) _ => .boolean b
  | scalar (.integer n) _ => .integer n
  | scalar (.fraction x) _ => .fraction (x.text numberLayout)
  | scalar .moment _ => .map
  | array _ _ => .sequence
  | table _ _ _ => .map
  | tables _ => .sequence

end Node

end SharedTerminal.Toml
