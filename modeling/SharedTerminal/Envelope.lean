import SharedTerminal.Json.Decode
import SharedTerminal.Task

/-!
# Envelopes

The JSON messages of the two kinds of connection.  On a status connection the daemon announces
every `Task.Change`.  On a command connection a client sends `Action`s: characters that were
typed, or a new size of the terminal.

Both are records with a tag named `action`.  They are written without spaces and with the members
in a fixed order, and read in any order with unknown members ignored.
-/

namespace SharedTerminal

open Shape (Fault)
open Json (Value Field)

/-! ## Failures -/

/-- Why an envelope or an address cannot be used. -/
inductive WireError where
  /-- A message cannot be written. -/
  | unwritable (reason : String)
  /-- A text is no message. -/
  | unreadable (reason : String)
  /-- A path is no address. -/
  | noEndpoint (path : String)
deriving DecidableEq, Repr

/-- The text of a failure. -/
def WireError.message : WireError → String
  | unwritable reason => "serialization failed: " ++ reason
  | unreadable reason => "deserialization failed: " ++ reason
  | noEndpoint path => "invalid endpoint path: " ++ path

/-- The failure to read a message, for the reason that a fault gives. -/
def WireError.ofFault (f : Fault) : WireError := unreadable f.message

/-! ## Announcements -/

namespace Task

/-- Finds the status with a name, all of whose names were checked before. -/
def Status.ofChecked (name : String) : Except Fault Status :=
  match ofName? name with
  | some s => .ok s
  | none => .error (.unknownVariant name names)

/-- Reads a document that is a status. -/
def Status.parse (s : List Char) : Except Fault Status := do
  ofChecked (← Json.parseName names s)

/-- The status as a JSON document. -/
def Status.toJson (s : Status) : String := String.ofList (Json.Text.encode s.name)

/-- The status that a JSON value spells. -/
def Status.ofValue (v : Value) : Except Fault Status := do
  ofChecked (← v.asName names)

namespace Change

/-- The fields of an announced change. -/
def fields : List Field :=
  [.of "taskId" Value.asText, .of "oldStatus" Status.ofValue, .of "newStatus" Status.ofValue,
    .of "context" Value.asText]

/-- The change that a JSON value spells. -/
def ofValue (v : Value) : Except Fault Change := do
  let body ← v.asBody "struct StatusUpdateEvent"
  match ← body.fields "struct StatusUpdateEvent with 4 elements" fields with
  | [task, before, after, context] =>
    return ⟨← task.asText, ← Status.ofValue before, ← Status.ofValue after, ← context.asText⟩
  | _ => throw .malformed

/-- How an announcement is tagged. -/
def tagging : Json.Tagging :=
  ⟨"action", ["status-update"], "internally tagged enum StatusMessage"⟩

/-- Reads an announcement. -/
def parse (s : List Char) : Except Fault Change := do
  let r ← Json.readTagged tagging s
  let body := r.1.2
  match ← body.fields "struct variant StatusMessage::StatusUpdate with 1 element"
      [.of "event" ofValue] with
  | [event] =>
    let change ← ofValue event
    Json.finish (change, r.2)
  | _ => throw .malformed

/-- A member with a text, after a name without escapes. -/
def textMember (name value : String) : List Char :=
  Json.Text.encode name ++ [':'] ++ Json.Text.encode value

/-- The announcement of a change. -/
def toJson (c : Change) : String :=
  let event := [textMember "taskId" c.task, textMember "oldStatus" c.before.name,
    textMember "newStatus" c.after.name, textMember "context" c.context]
  String.ofList <|
    ['\x7b'] ++ textMember "action" "status-update" ++ [','] ++ Json.Text.encode "event"
      ++ [':', '\x7b'] ++ [','].intercalate event ++ ['\x7d', '\x7d']

end Change

end Task

/-! ## Actions -/

/-- What a client asks of the terminal. -/
inductive Action where
  /-- To take characters as if they were typed. -/
  | input (text : String)
  /-- To take another size, in columns and rows. -/
  | resize (cols rows : UInt16)
deriving DecidableEq, Repr

namespace Action

/-- The action that types a command line and ends it. -/
def command (line : String) : Action := input (line ++ "\n")

/-- How an action is tagged. -/
def tagging : Json.Tagging :=
  ⟨"action", ["read", "resize"], "internally tagged enum TermAction"⟩

/-- The action with a tag and contents. -/
def ofTagged (tag : String) (body : Json.Body) : Except Fault Action := do
  if tag == "read" then
    match ← body.fields "struct variant TermAction::Read with 1 element"
        [.of "data" Value.asText] with
    | [data] => return input (← data.asText)
    | _ => throw .malformed
  else
    match ← body.fields "struct variant TermAction::Resize with 2 elements"
        [.of "cols" Value.asWord16, .of "rows" Value.asWord16] with
    | [cols, rows] => return resize (← cols.asWord16) (← rows.asWord16)
    | _ => throw .malformed

/-- Reads an action from text. -/
def parse (s : List Char) : Except Fault Action := do
  let r ← Json.readTagged tagging s
  let action ← ofTagged r.1.1 r.1.2
  Json.finish (action, r.2)

/-- Reads an action from bytes.  Bytes that are no text end the document. -/
def ofBytes (bytes : Bytes) : Except Fault Action := do
  let (text, whole) := Utf8.validPrefix bytes
  let action ← parse text
  if whole then return action else throw .malformed

/-- The action as a JSON document. -/
def toJson : Action → String
  | input text =>
    String.ofList <| ['\x7b'] ++ Task.Change.textMember "action" "read" ++ [',']
      ++ Task.Change.textMember "data" text ++ ['\x7d']
  | resize cols rows =>
    String.ofList <| ['\x7b'] ++ Task.Change.textMember "action" "resize" ++ [',']
      ++ Json.Text.encode "cols" ++ [':'] ++ (toString cols.toNat).toList ++ [',']
      ++ Json.Text.encode "rows" ++ [':'] ++ (toString rows.toNat).toList ++ ['\x7d']

end Action

end SharedTerminal
