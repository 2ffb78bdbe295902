import SharedTerminal.Text.Utf8

/-!
# The head of a request

A connection begins with the head of a request: blank lines, a line with a method, a target and a
version, and a line for each header, up to a blank one.  Whoever reads it byte by byte knows as
early as possible that the head is complete, or that there will never be one.
-/

namespace SharedTerminal

/-- How far the head of a request was read. -/
inductive RequestHead where
  /-- Before the first line. -/
  | start
  /-- In a blank line before the first. -/
  | blank
  /-- In the method; the flag tells whether it has begun. -/
  | method (begun : Bool)
  /-- In the target; the flag tells whether it has begun. -/
  | target (begun : Bool)
  /-- In the version, of which a number of letters was read. -/
  | version (read : Nat)
  /-- At the end of the version. -/
  | lineEnd
  /-- Before the line feed of a line. -/
  | lineFeed
  /-- Before a header or the last line. -/
  | headers
  /-- Before the line feed of the last line. -/
  | lastFeed
  /-- In the name of a header. -/
  | name
  /-- In the value of a header. -/
  | value
  /-- After the last line. -/
  | complete
  /-- After something that cannot stand in a head. -/
  | broken
deriving DecidableEq, Repr

namespace RequestHead

/-- The carriage return. -/
def carriageReturn : UInt8 := 13

/-- The line feed. -/
def newline : UInt8 := 10

/-- Whether a byte can stand in a method or in the name of a header. -/
def isToken (b : UInt8) : Bool :=
  let c := Char.ofNat b.toNat
  b < 128 && (c.isAlphanum || "!#$%&'*+-.^_|~\x60".toList.contains c)

/-- Whether a byte can stand in a target. -/
def isTarget (b : UInt8) : Bool :=
  let c := Char.ofNat b.toNat
  32 < b && b < 127 && c ∉ ['"', '<', '>']

/-- Whether a byte can stand in the value of a header. -/
def isValue (b : UInt8) : Bool := b = 9 || (32 ≤ b && b ≠ 127)

/-- The letters of a version before its last. -/
def versionText : Bytes := utf8 "HTTP/1."

/-- Whether a byte is the last letter of a version. -/
def isMinor (b : UInt8) : Bool := b = 48 || b = 49

/-- Reads a byte. -/
def step (head : RequestHead) (b : UInt8) : RequestHead :=
  match head with
  | start =>
    if b = carriageReturn then blank
    else if b = newline then start
    else if isToken b then method true
    else broken
  | blank => if b = newline then start else broken
  | method begun =>
    if isToken b then method true
    else if b = 32 && begun then target false
    else broken
  | target begun =>
    if isTarget b then target true
    else if b = 32 && begun then version 0
    else broken
  | version n =>
    match versionText[n]? with
    | some letter => if b = letter then version (n + 1) else broken
    | none => if isMinor b then lineEnd else broken
  | lineEnd =>
    if b = carriageReturn then lineFeed
    else if b = newline then headers
    else broken
  | lineFeed => if b = newline then headers else broken
  | headers =>
    if b = carriageReturn then lastFeed
    else if b = newline then complete
    else if isToken b then name
    else broken
  | lastFeed => if b = newline then complete else broken
  | name =>
    if isToken b then name
    else if b = 58 then value
    else broken
  | value =>
    if b = carriageReturn then lineFeed
    else if b = newline then headers
    else if isValue b then value
    else broken
  | complete => complete
  | broken => broken

/-- Reads bytes from the beginning. -/
def read (data : Bytes) : RequestHead := data.foldl step start

/-- Whether nothing more needs to be read. -/
def isSettled (head : RequestHead) : Bool := head = complete || head = broken

end RequestHead

end SharedTerminal
