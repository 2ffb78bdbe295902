import SharedTerminal.Envelope

/-!
# Endpoints

The path of a connection names what it is for: the status of a context, or its terminal, in
binary or in text frames, to drive it or to watch it.  `Endpoint.parse` reads a path and
`Endpoint.path` writes one.

A path is a family followed by segments.  Empty segments do not count, so slashes may be
repeated.  On a command path the last segment `ro` asks to watch; a context of that name can
therefore only be watched.
-/

namespace SharedTerminal

/-- How output is framed for a client. -/
inductive Mode where
  /-- As text; bytes that are no text are replaced. -/
  | text
  /-- As the bytes themselves. -/
  | binary
deriving DecidableEq, Repr, Inhabited

namespace Mode

/-- Every mode, in the order in which errors list them. -/
def all : List Mode := [text, binary]

/-- The name of a mode on the wire. -/
def name : Mode → String
  | text => "TEXT"
  | binary => "BINARY"

/-- The mode with a name. -/
def ofName? (s : String) : Option Mode := all.find? (·.name == s)

/-- Reads a document that is a mode. -/
def parse (s : List Char) : Except Shape.Fault Mode := do
  let name ← Json.parseName (all.map name) s
  match ofName? name with
  | some m => return m
  | none => throw (.unknownVariant name (all.map Mode.name))

/-- The mode as a JSON document. -/
def toJson (m : Mode) : String := String.ofList (Json.Text.encode m.name)

end Mode

/-- What a connection is for. -/
inductive Endpoint where
  /-- The terminal of a context. -/
  | command (context : String) (mode : Mode) (readOnly : Bool)
  /-- The status of the tasks of a context. -/
  | status (context : String)
deriving DecidableEq, Repr

namespace Endpoint

/-- The context that a connection is about. -/
def context : Endpoint → String
  | command c _ _ => c
  | status c => c

/-- The family of paths of the status connections. -/
def statusFamily : List Char := "/socket/process-status-updates".toList

/-- The family of paths of the command connections in a mode. -/
def commandFamily : Mode → List Char
  | .binary => "/socket/term".toList
  | .text => "/socket/text".toList

/-- The last segment of a path that asks to watch. -/
def readOnlySegment : List Char := ['r', 'o']

/-- The nonempty segments of what follows the family. -/
def segments (rest : List Char) : List (List Char) :=
  (rest.splitOn '/').filter fun segment => !segment.isEmpty

/-- The path without a family in front, if it begins with one and a slash or nothing follows. -/
def afterFamily? (family path : List Char) : Option (List Char) :=
  match family.isPrefixOf? path with
  | none => none
  | some rest => if rest.isEmpty || rest.head? == some '/' then some rest else none

/-- The status endpoint with segments after its family. -/
def ofStatusSegments? : List (List Char) → Option Endpoint
  | [] => some (status "")
  | [c] => some (status (String.ofList c))
  | _ => none

/-- The command endpoint with segments after its family. -/
def ofCommandSegments? (mode : Mode) : List (List Char) → Option Endpoint
  | [] => some (command "" mode false)
  | [c] =>
    if c = readOnlySegment then some (command "" mode true)
    else some (command (String.ofList c) mode false)
  | [c, r] => if r = readOnlySegment then some (command (String.ofList c) mode true) else none
  | _ => none

/-- The endpoint that a path names. -/
def parse? (path : List Char) : Option Endpoint :=
  match afterFamily? statusFamily path with
  | some rest => ofStatusSegments? (segments rest)
  | none =>
    match afterFamily? (commandFamily .binary) path with
    | some rest => ofCommandSegments? .binary (segments rest)
    | none =>
      match afterFamily? (commandFamily .text) path with
      | some rest => ofCommandSegments? .text (segments rest)
      | none => none

/-- Reads a path. -/
def parse (path : String) : Except WireError Endpoint :=
  match parse? path.toList with
  | some e => .ok e
  | none => .error (.noEndpoint path)

/-- A slash and a segment, or nothing for an empty segment. -/
def slashed (segment : List Char) : List Char :=
  if segment.isEmpty then [] else '/' :: segment

/-- The path of an endpoint, as characters. -/
def pathChars : Endpoint → List Char
  | command c mode readOnly =>
    commandFamily mode ++ slashed c.toList ++ (if readOnly then '/' :: readOnlySegment else [])
  | status c => statusFamily ++ slashed c.toList

/-- The path of an endpoint. -/
def path (e : Endpoint) : String := String.ofList e.pathChars

end Endpoint

end SharedTerminal
