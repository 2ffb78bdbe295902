import SharedTerminal.Text.Utf8

/-!
# Frames

What the two ends of a connection send each other: data as text or as bytes, questions whether the
other end is there, and the end of the connection.
-/

namespace SharedTerminal

namespace Frame

/-- Why a connection is closed. -/
structure Reason where
  /-- The kind of the reason, by number. -/
  code : Nat
  /-- The reason in words. -/
  text : String
deriving DecidableEq, Repr

/-- The kind of a failure at the daemon. -/
def Reason.failure : Nat := 1011

end Frame

/-- One message on a connection. -/
inductive Frame where
  /-- Data as text. -/
  | text (text : String)
  /-- Data as bytes. -/
  | binary (bytes : Bytes)
  /-- A question whether the other end is there. -/
  | ping (bytes : Bytes)
  /-- The answer to such a question. -/
  | pong (bytes : Bytes)
  /-- The end of the connection. -/
  | close (reason : Option Frame.Reason)
deriving DecidableEq, Repr

namespace Frame

/-- The data of a frame, if it carries any. -/
def payload? : Frame → Option Bytes
  | text s => some (utf8 s)
  | binary b => some b
  | ping _ | pong _ | close _ => none

/-- Whether a frame ends the connection. -/
def isClose : Frame → Bool
  | close _ => true
  | _ => false

end Frame

end SharedTerminal
