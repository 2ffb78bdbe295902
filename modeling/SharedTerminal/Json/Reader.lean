import SharedTerminal.Json.Number
import SharedTerminal.Json.Text

/-!
# Reading JSON

`Value.read` reads one value of at most a given depth from the front of a text.  Arrays and
objects are folded entry by entry into a state.  A reader of a particular message can thus refuse
an entry as soon as it is read, before a malformed later one is reached.

The depth bounds the recursion into arrays and objects, the length of the text the number of
their entries.
-/

namespace SharedTerminal.Json

open Shape (Fault)

/-- Whether a character may stand between tokens. -/
def isSpace (c : Char) : Bool := c == ' ' || c == '\n' || c == '\t' || c == '\r'

/-- A text without the space at its front. -/
def skipSpace (s : List Char) : List Char := s.dropWhile isSpace

/-- Reads the entries of an array or an object after its opening bracket, and the bracket that
closes it.  A `step` reads one entry and folds it into the state; `fuel` bounds the number of
entries.  Entries are separated by commas, and none follows the last. -/
def foldEntriesFrom {σ : Type} (close : Char)
    (step : σ → List Char → Except Fault (σ × List Char)) (first : Bool) :
    Nat → σ → List Char → Except Fault (σ × List Char)
  | 0, _, _ => .error .malformed
  | fuel + 1, state, s =>
    match skipSpace s with
    | [] => .error .malformed
    | c :: rest =>
      if c == close then .ok (state, rest)
      else
        let start : Option (List Char) :=
          if first then some (c :: rest)
          else if c == ',' then
            let next := skipSpace rest
            if next.head? == some close then none else some next
          else none
        match start with
        | none => .error .malformed
        | some start =>
          match step state start with
          | .error f => .error f
          | .ok (state, rest) => foldEntriesFrom close step false fuel state rest

/-- Folds the entries after an opening bracket into a state. -/
def foldEntries {σ : Type} (close : Char)
    (step : σ → List Char → Except Fault (σ × List Char)) (start : σ) (s : List Char) :
    Except Fault (σ × List Char) :=
  foldEntriesFrom close step true (s.length + 1) start s

/-- Reads the name of a member. -/
def memberName (s : List Char) : Except Fault (String × List Char) :=
  match s with
  | '"' :: s => Text.read s
  | _ => .error .malformed

/-- Reads the colon between the name and the value of a member. -/
def colon (s : List Char) : Except Fault (List Char) :=
  match skipSpace s with
  | ':' :: s => .ok (skipSpace s)
  | _ => .error .malformed

/-- Reads a value by `item` and puts it in front of the values read before. -/
def pushItem {α : Type} (item : List Char → Except Fault (α × List Char)) (items : List α)
    (s : List Char) : Except Fault (List α × List Char) := do
  let (a, rest) ← item s
  return (a :: items, rest)

/-- Reads a member, its value by `item`, and puts it in front of the members read before. -/
def pushMember {α : Type} (item : List Char → Except Fault (α × List Char))
    (members : List (String × α)) (s : List Char) :
    Except Fault (List (String × α) × List Char) := do
  let (name, s) ← memberName s
  let s ← colon s
  let (a, rest) ← item s
  return ((name, a) :: members, rest)

/-- The words that are values. -/
def word? : List Char → Option (Value × List Char)
  | 'n' :: 'u' :: 'l' :: 'l' :: rest => some (.null, rest)
  | 't' :: 'r' :: 'u' :: 'e' :: rest => some (.boolean true, rest)
  | 'f' :: 'a' :: 'l' :: 's' :: 'e' :: rest => some (.boolean false, rest)
  | _ => none

/-- Reads a value that is neither an array nor an object. -/
def scalar (s : List Char) : Except Fault (Value × List Char) :=
  match s with
  | '"' :: rest =>
    match Text.read rest with
    | .error f => .error f
    | .ok (t, rest) => .ok (.text t, rest)
  | c :: _ =>
    if c == '-' || Numeral.isDigit c then Number.read s
    else match word? s with
      | some r => .ok r
      | none => .error .malformed
  | [] => .error .malformed

/-- Reads a value with at most `depth` arrays and objects inside each other. -/
def Value.read : Nat → List Char → Except Fault (Value × List Char)
  | 0, s =>
    match skipSpace s with
    | '[' :: _ => .error .malformed
    | '\x7b' :: _ => .error .malformed
    | s => scalar s
  | depth + 1, s =>
    match skipSpace s with
    | '[' :: s =>
      match foldEntries ']' (pushItem (Value.read depth)) [] s with
      | .error f => .error f
      | .ok (items, rest) => .ok (.array items.reverse, rest)
    | '\x7b' :: s =>
      match foldEntries '\x7d' (pushMember (Value.read depth)) [] s with
      | .error f => .error f
      | .ok (members, rest) => .ok (.object members.reverse, rest)
    | s => scalar s

/-- How deep arrays and objects may be nested in a document. -/
def greatestDepth : Nat := 127

/-- Passes a result on if only space is left. -/
def finish {α : Type} (r : α × List Char) : Except Fault α :=
  if (skipSpace r.2).isEmpty then .ok r.1 else .error .malformed

/-- Reads a document that is one value. -/
def Value.parse (s : List Char) : Except Fault Value :=
  match Value.read greatestDepth s with
  | .error f => .error f
  | .ok r => finish r

end SharedTerminal.Json
