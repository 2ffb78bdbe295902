import SharedTerminal.Json.Reader

/-!
# Matching JSON values with shapes

The shapes that messages are made of: texts, numbers of 16 bits, names out of a fixed list,
records, and records with a tag.

A record is an object with known field names, or an array of the fields in their order.  Members
under other names are ignored.  Of several faults the first in the order of the document counts,
and an absent field comes last.  A tagged record has one member, the tag, whose value chooses the
fields of the others; the tag may stand anywhere in the object, and first in the array.  The tag
is checked as soon as it is read.
-/

namespace SharedTerminal.Json

open Shape (Fault)

namespace Value

/-- The value as a text. -/
def asText : Value → Except Fault String
  | text s => .ok s
  | v => .error (.invalidType v.found "a string")

/-- The value as a number of 16 bits. -/
def asWord16 : Value → Except Fault UInt16
  | integer i =>
    if 0 ≤ i && i ≤ 65535 then .ok (UInt16.ofNat i.toNat)
    else .error (.invalidValue (.integer i) "u16")
  | v => .error (.invalidType v.found "u16")

/-- Checks that a value carries nothing. -/
def asUnit : Value → Except Fault Unit
  | null => .ok ()
  | object [] => .ok ()
  | v => .error (.invalidType v.found "unit")

end Value

/-- A name out of a list. -/
def knownName (known : List String) (name : String) : Except Fault String :=
  if known.contains name then .ok name else .error (.unknownVariant name known)

namespace Value

/-- The value as a name out of a list: the name itself, or an object with that one member. -/
def asName (known : List String) : Value → Except Fault String
  | text s => knownName known s
  | object [(name, v)] => do
    let name ← knownName known name
    v.asUnit
    return name
  | object _ => .error (.invalidValue .map "map with a single key")
  | v => .error (.invalidType v.found "string or map")

end Value

/-! ## Records -/

/-- The contents of a record: named members, or fields by position. -/
inductive Body where
  /-- Members under names. -/
  | members (members : List (String × Value))
  /-- Fields in the order of their declaration. -/
  | items (items : List Value)

/-- A field of a record: its name, and a check of its value. -/
structure Field where
  /-- The name of the field. -/
  name : String
  /-- What is wrong with a value of the field, if anything. -/
  check : Value → Except Fault Unit

/-- A field whose values are those that `decode` accepts. -/
def Field.of {α : Type} (name : String) (decode : Value → Except Fault α) : Field :=
  ⟨name, fun v => (decode v).map fun _ => ()⟩

/-- Checks members in order: no known name occurs twice, and each known value is in order. -/
def checkMembers (fields : List Field) : List String → List (String × Value) → Except Fault Unit
  | _, [] => .ok ()
  | seen, (name, v) :: rest =>
    match fields.find? (·.name == name) with
    | none => checkMembers fields seen rest
    | some field => do
      if seen.contains name then throw (.duplicateField name)
      field.check v
      checkMembers fields (name :: seen) rest

/-- Checks fields by position.  `label` names the record and its length. -/
def checkItems (label : String) : Nat → List Field → List Value → Except Fault Unit
  | _, [], [] => .ok ()
  | n, [], extra =>
    let plural := if n == 1 then " element in sequence" else " elements in sequence"
    .error (.invalidLength (n + extra.length) (toString n ++ plural))
  | n, _ :: _, [] => .error (.invalidLength n label)
  | n, field :: fields, v :: rest => do
    field.check v
    checkItems label (n + 1) fields rest

/-- The value of each field of a record, all of them checked. -/
def Body.fields (label : String) (fields : List Field) : Body → Except Fault (List Value)
  | .members ms => do
    checkMembers fields [] ms
    fields.mapM fun field =>
      match ms.lookup field.name with
      | some v => .ok v
      | none => .error (.missingField field.name)
  | .items vs => do
    checkItems label 0 fields vs
    return vs

/-- The contents of a value that is a record; `expected` names the record. -/
def Value.asBody (expected : String) : Value → Except Fault Body
  | .object ms => .ok (.members ms)
  | .array vs => .ok (.items vs)
  | v => .error (.invalidType v.found expected)

/-! ## Tagged records -/

/-- Reads the name that a tag or a bare name spells.  An array or an object in its place is
refused at its opening bracket. -/
def readName (known : List String) (s : List Char) : Except Fault (String × List Char) :=
  match s with
  | '"' :: rest => do
    let (name, rest) ← Text.read rest
    let name ← knownName known name
    return (name, rest)
  | '[' :: _ => .error (.invalidType .sequence "variant identifier")
  | '\x7b' :: _ => .error (.invalidType .map "variant identifier")
  | _ => do
    let (v, _) ← scalar s
    throw (.invalidType v.found "variant identifier")

/-- How a tagged record is spelled. -/
structure Tagging where
  /-- The name of the member that holds the tag. -/
  tag : String
  /-- The tags. -/
  known : List String
  /-- What an error says was expected. -/
  expected : String

/-- The members of a tagged record read so far, the last one first, and its tag. -/
structure TaggedMembers where
  /-- The tag, once it was read. -/
  tag : Option String
  /-- The other members. -/
  members : List (String × Value)

/-- Reads a member of a tagged record. -/
def pushTagged (t : Tagging) (state : TaggedMembers) (s : List Char) :
    Except Fault (TaggedMembers × List Char) := do
  let (name, s) ← memberName s
  if name == t.tag then
    if state.tag.isSome then throw (.duplicateField name)
    let s ← colon s
    let (tag, rest) ← readName t.known s
    return (⟨some tag, state.members⟩, rest)
  else
    let s ← colon s
    let (v, rest) ← Value.read (greatestDepth - 1) s
    return (⟨state.tag, (name, v) :: state.members⟩, rest)

/-- The items of a tagged record read so far, the last one first, and its tag. -/
structure TaggedItems where
  /-- The tag, once it was read. -/
  tag : Option String
  /-- The items after it. -/
  items : List Value

/-- Reads an item of a tagged record; the first one is the tag. -/
def pushTaggedItem (t : Tagging) (state : TaggedItems) (s : List Char) :
    Except Fault (TaggedItems × List Char) := do
  match state.tag with
  | none =>
    let (tag, rest) ← readName t.known s
    return (⟨some tag, []⟩, rest)
  | some tag =>
    let (v, rest) ← Value.read (greatestDepth - 1) s
    return (⟨some tag, v :: state.items⟩, rest)

/-- Reads a tagged record: its tag and its contents. -/
def readTagged (t : Tagging) (s : List Char) : Except Fault ((String × Body) × List Char) :=
  match skipSpace s with
  | '\x7b' :: s => do
    let (state, rest) ← foldEntries '\x7d' (pushTagged t) ⟨none, []⟩ s
    match state.tag with
    | none => throw (.missingField t.tag)
    | some tag => return ((tag, .members state.members.reverse), rest)
  | '[' :: s => do
    let (state, rest) ← foldEntries ']' (pushTaggedItem t) ⟨none, []⟩ s
    match state.tag with
    | none => throw (.missingField t.tag)
    | some tag => return ((tag, .items state.items.reverse), rest)
  | s => do
    let (v, _) ← scalar s
    throw (.invalidType v.found t.expected)

/-- Reads a document that is one of a list of names, spelled as a string or as an object with
that one member, which is null. -/
def parseName (known : List String) (s : List Char) : Except Fault String :=
  match skipSpace s with
  | '"' :: s => do
    let (name, rest) ← Text.read s
    let name ← knownName known name
    finish (name, rest)
  | '\x7b' :: s => do
    let (name, s) ← readName known (skipSpace s)
    let s ← colon s
    let rest ← match s with
      | '[' :: _ => throw (.invalidType .sequence "unit")
      | '\x7b' :: _ => throw (.invalidType .map "unit")
      | _ => do
        let (v, rest) ← scalar s
        match v with
        | .null => pure rest
        | v => throw (.invalidType v.found "unit")
    match skipSpace rest with
    | '\x7d' :: rest => finish (name, rest)
    | _ => throw .malformed
  | _ => .error .malformed

end SharedTerminal.Json
