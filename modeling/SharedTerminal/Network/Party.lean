import SharedTerminal.Client.Link

/-!
# Parties

Who holds the client's end of a connection: a peer, or a link that is being opened or was opened.
A link is known by its owner, and an attempt to open one is over as soon as its outcome is known.
-/

namespace SharedTerminal.Network

/-- Whom a link belongs to. -/
inductive Owner where
  /-- To no one; it goes by a name. -/
  | named (name : String)
  /-- To the client as a program. -/
  | program
deriving DecidableEq, Repr

/-- The client's end of a connection. -/
inductive Party where
  /-- A peer, by its name. -/
  | peer (name : String)
  /-- The command connection of a link. -/
  | command (owner : Owner)
  /-- The status connection of a link. -/
  | status (owner : Owner)
deriving DecidableEq, Repr

/-- A link that is being opened or was opened. -/
structure Attempt where
  /-- The link. -/
  link : Client.Link
  /-- When waiting ends, in milliseconds. -/
  deadline : Nat
  /-- What came of opening the link, once it is known. -/
  result : Option (Except Client.Error Unit)
  /-- Whether whoever opens the link has it. -/
  held : Bool

namespace Attempt

/-- What came of opening a link, at a time. -/
def outcome (attempt : Attempt) (now : Nat) : Option (Except Client.Error Unit) :=
  match attempt.result with
  | some result => some result
  | none =>
    match attempt.link.opening with
    | some result => some result
    | none =>
      if attempt.deadline ≤ now then some (.error (.timeout attempt.link.settings.readyTimeout))
      else none

end Attempt

/-! ## News -/

/-- What came on a link since it was last shown, and whether more can come. -/
structure News where
  /-- The output. -/
  output : List Bytes
  /-- The changes of status. -/
  changes : List Task.Change
  /-- Whether the output has ended. -/
  outputEnded : Bool
  /-- Whether the changes of status have ended. -/
  changesEnded : Bool

/-- What came on a link.  Nothing is seen of one that is not in anyone's hands. -/
def Attempt.news (attempt : Attempt) : News :=
  match attempt.held, attempt.result with
  | true, some (.ok ()) =>
    ⟨attempt.link.output, attempt.link.changes, attempt.link.command ≠ .up,
      attempt.link.status ≠ .up⟩
  | _, _ => ⟨[], [], false, false⟩

end SharedTerminal.Network
