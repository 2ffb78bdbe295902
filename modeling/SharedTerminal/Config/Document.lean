import SharedTerminal.Config
import SharedTerminal.Toml.Document

/-!
# Configuration files

A configuration is written as a TOML document with the tables `server` and `session`.  When one is
read, absent keys and tables keep their defaults and unknown ones are ignored.  A table can also be
given as an array of its values in their order.

An error names the place of the value in the document, in bytes.
-/

namespace SharedTerminal.Config

open Shape (Fault)
open Toml (Node Span Key Entries)

/-! ## Reading -/

/-- What is wrong with a document, and where. -/
structure Misfit where
  /-- What is wrong. -/
  fault : Fault
  /-- The part of the document. -/
  place : Option Span
deriving DecidableEq, Repr

namespace Misfit

/-- The misfit, with a place if it had none. -/
def atLeast (place : Option Span) (m : Misfit) : Misfit := { m with place := m.place.orElse fun _ => place }

/-- The text of a misfit in a document. -/
def message (document : List Char) (m : Misfit) : String :=
  match m.place with
  | none => m.fault.message
  | some span =>
    let (start, stop) := span.bytes document
    m.fault.message ++ " (at position " ++ toString start ++ ".." ++ toString stop ++ ")"

end Misfit

/-- A key of a table, and what its value changes. -/
structure Setting (σ : Type) where
  /-- The name of the key. -/
  name : String
  /-- The table with the value in its place. -/
  set : σ → Node → Except Misfit σ

/-- A fault at a value. -/
def faultAt (node : Node) (f : Fault) : Misfit := ⟨f, node.span?⟩

/-- The value as a text. -/
def asText (expected : String) (node : Node) : Except Misfit String :=
  match node with
  | .text s _ => .ok s
  | _ => .error (faultAt node (.invalidType node.found expected))

/-- The value as a whole number below a bound. -/
def asNat (expected : String) (bound : Nat) (node : Node) : Except Misfit Nat :=
  match node with
  | .scalar (.integer n) _ =>
    if 0 ≤ n ∧ n < bound then .ok n.toNat
    else .error (faultAt node (.invalidValue (.integer n) expected))
  | _ => .error (faultAt node (.invalidType node.found expected))

/-- Puts the entries of a table in their places, in the order of the document. -/
def fill {σ : Type} (settings : List (Setting σ)) (start : σ) (entries : Entries) :
    Except Misfit σ :=
  entries.foldlM (fun state (key, node) =>
    match settings.find? fun s => s.name == key.name with
    | none => .ok state
    | some setting =>
      match setting.set state node with
      | .ok next => .ok next
      | .error m => .error (m.atLeast ((node.span?).orElse fun _ => some key.span))) start

/-- Puts the items of an array in the places of the keys in their order. -/
def fillInOrder {σ : Type} : List (Setting σ) → σ → List Node → Except Misfit σ
  | [], state, _ => .ok state
  | _, state, [] => .ok state
  | setting :: settings, state, node :: rest => do
    fillInOrder settings (← setting.set state node) rest

/-- Reads a table, which `expected` names. -/
def group {σ : Type} (expected : String) (settings : List (Setting σ)) (start : σ)
    (node : Node) : Except Misfit σ :=
  match node with
  | .table _ entries _ => fill settings start entries
  | .array items _ => fillInOrder settings start items
  | .tables items => fillInOrder settings start items
  | .scalar .moment _ => .ok start
  | _ => .error (faultAt node (.invalidType node.found expected))

/-- The keys of the table `server`. -/
def serverSettings : List (Setting Server) :=
  [⟨"bind_address", fun s node => do return { s with bindAddress := ← asText "a string" node }⟩,
    ⟨"port", fun s node => do return { s with port := UInt16.ofNat (← asNat "u16" 65536 node) }⟩,
    ⟨"log_level", fun s node => do return { s with logLevel := ← asText "a string" node }⟩]

/-- The keys of the table `session`. -/
def sessionSettings : List (Setting Sessions) :=
  [⟨"shell", fun s node => do return { s with shell := ← asText "a string" node }⟩,
    ⟨"channel_capacity", fun s node => do
      return { s with channelCapacity := UInt64.ofNat (← asNat "usize" UInt64.size node) }⟩,
    ⟨"output_log_dir", fun s node => do
      return { s with outputLogDir := some (← asText "path string" node) }⟩]

/-- The tables of a configuration. -/
def settings : List (Setting Config) :=
  [⟨"server", fun c node => do
      return { c with server := ← group "struct ServerConfig" serverSettings c.server node }⟩,
    ⟨"session", fun c node => do
      return { c with session := ← group "struct SessionConfig" sessionSettings c.session node }⟩]

/-- Reads a document, for a default shell. -/
def parse (shell : String) (document : List Char) : Except Misfit Config :=
  match Toml.Document.parse? document with
  | none => .error ⟨.malformed, none⟩
  | some entries => fill settings (defaults shell) entries

/-! ## Writing -/

/-- A line with a key and a value. -/
def line (key : String) (value : List Char) : List Char :=
  key.toList ++ [' ', '=', ' '] ++ value ++ ['\n']

/-- A line with a key and a text. -/
def textLine (key value : String) : List Char := line key (Toml.Text.encode value.toList)

/-- A line with a key and a number. -/
def numberLine (key : String) (value : Nat) : List Char := line key (toString value).toList

/-- The header of a table. -/
def headerLine (name : String) : List Char := '[' :: name.toList ++ [']', '\n']

/-- The characters of a configuration as a document. -/
def documentChars (c : Config) : List Char :=
  headerLine "server" ++ textLine "bind_address" c.server.bindAddress
    ++ numberLine "port" c.server.port.toNat ++ textLine "log_level" c.server.logLevel ++ ['\n']
    ++ headerLine "session" ++ textLine "shell" c.session.shell
    ++ numberLine "channel_capacity" c.session.channelCapacity.toNat
    ++ match c.session.outputLogDir with
      | some dir => textLine "output_log_dir" dir
      | none => []

/-- A configuration as a document.  A whole number of a document has 63 bits, which not every
capacity does. -/
def toDocument? (c : Config) : Option String :=
  if c.session.channelCapacity.toNat < 0x8000000000000000 then some (String.ofList c.documentChars) else none

end SharedTerminal.Config
