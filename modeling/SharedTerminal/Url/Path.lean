import SharedTerminal.Text.Percent

/-!
# Paths of URLs

The path of a URL is a list of segments, each written behind a slash.  When a path is read, a
backslash counts as a slash, tabs and line ends are left out, a segment of one dot goes, and a
segment of two dots goes together with the one before it.  A dot can be written as `%2e`.  What is
not allowed in a path is percent-encoded; escapes that are there already stay.

A segment that consists of a letter and a colon or a bar is the name of a drive and survives two
dots after it.
-/

namespace SharedTerminal.Url

/-- Whether a character is left out wherever it stands in a URL. -/
def isLeftOut (c : Char) : Bool := c == '\t' || c == '\n' || c == '\r'

/-- Whether a character can stand in a URL as it is: it is ASCII, no control, and not among those
named. -/
def isPlain (except : List Char) (c : Char) : Bool :=
  0x20 ≤ c.toNat && c.toNat < 0x7F && !except.contains c

/-- Whether a character can stand in a fragment as it is. -/
def isFragmentSafe (c : Char) : Bool := isPlain [' ', '"', '<', '>', '\x60'] c

/-- Whether a character can stand in a path as it is. -/
def isPathSafe (c : Char) : Bool := isFragmentSafe c && isPlain ['#', '?', '\x7b', '\x7d'] c

/-- Whether a character can stand in a user name or a password as it is. -/
def isUserSafe (c : Char) : Bool :=
  isPathSafe c && isPlain ['/', ':', ';', '=', '@', '[', '\\', ']', '^', '|'] c

/-- Whether a character can stand in a query as it is. -/
def isQuerySafe (c : Char) : Bool := isPlain [' ', '"', '#', '<', '>', '\''] c

namespace Path

/-- Takes the dot at the head of a segment. -/
def dot? : List Char → Option (List Char)
  | '.' :: rest => some rest
  | '%' :: '2' :: e :: rest => if e = 'e' ∨ e = 'E' then some rest else none
  | _ => none

/-- Whether a segment is one dot. -/
def isDot (segment : List Char) : Bool := dot? segment == some []

/-- Whether a segment is two dots. -/
def isDots (segment : List Char) : Bool := (dot? segment).any isDot

/-- Whether a segment names a drive. -/
def isDrive : List Char → Bool
  | [letter, mark] => letter.isAlpha && (mark == ':' || mark == '|')
  | _ => false

/-- Takes back the last of the segments so far, given in reverse, unless it names a drive. -/
def ascend : List (List Char) → List (List Char)
  | [] => []
  | segment :: rest => if isDrive segment then segment :: rest else rest

/-- Goes through segments; those so far are given in reverse.  After a dot or two at the end the
last segment is empty. -/
def resolve : List (List Char) → List (List Char) → List (List Char)
  | done, [] => done.reverse
  | done, [last] =>
    if isDots last then ([] :: ascend done).reverse
    else if isDot last then ([] :: done).reverse
    else (Percent.encode isPathSafe last :: done).reverse
  | done, segment :: rest =>
    if isDots segment then resolve (ascend done) rest
    else if isDot segment then resolve done rest
    else resolve (Percent.encode isPathSafe segment :: done) rest

/-- The path with its first slash or backslash taken off. -/
def unrooted : List Char → List Char
  | '/' :: rest => rest
  | '\\' :: rest => rest
  | path => path

/-- Reads a path: its segments. -/
def parse (path : List Char) : List (List Char) :=
  let path := path.filter fun c => !isLeftOut c
  resolve [] (((unrooted path).map fun c => if c = '\\' then '/' else c).splitOn '/')

/-- A path as it stands in a URL. -/
def text (segments : List (List Char)) : List Char := segments.flatMap ('/' :: ·)

end Path

end SharedTerminal.Url
