import SharedTerminal.Text.Utf8

/-!
# The machine

What the daemon finds on the machine that it runs on: directories, files and programs.  A relative
path starts from the current directory.  The name of a program is looked up in the directories of
the search path instead, unless it is a path of several parts.
-/

namespace SharedTerminal

/-- What stands under a path. -/
inductive Stored where
  /-- Nothing. -/
  | absent
  /-- A directory. -/
  | directory
  /-- A file that is no program. -/
  | file (content : Bytes)
  /-- A program. -/
  | program
deriving DecidableEq, Repr

/-- The directories, files and programs of a machine, each under the parts of its path. -/
structure Machine where
  /-- What stands under which path. -/
  tree : List (List (List Char) × Stored)
  /-- The directories in which programs are looked up. -/
  searchPath : List (List (List Char))
  /-- The directory that relative paths start from, if it is known. -/
  currentDirectory : Option (List (List Char))
deriving DecidableEq, Repr

namespace Machine

/-- The parts of a path, without empty ones and single dots. -/
def parts (path : List Char) : List (List Char) :=
  (path.splitOn '/').filter fun part => !part.isEmpty && part != ['.']

/-- What stands under the parts of a path.  The root is a directory. -/
def standing (m : Machine) (path : List (List Char)) : Stored :=
  if path.isEmpty then .directory else (m.tree.lookup path).getD .absent

/-- Follows parts from a directory, given in reverse, and gives what stands at the end. -/
def follow (m : Machine) : List (List Char) → List (List Char) → Stored
  | here, [] => m.standing here.reverse
  | here, part :: rest =>
    if m.standing here.reverse = .directory then
      if part = ['.', '.'] then m.follow here.tail rest else m.follow (part :: here) rest
    else .absent

/-- Whether a path is absolute. -/
def isAbsolute (path : List Char) : Bool := path.head? == some '/'

/-- Whether a path can only name a directory. -/
def namesDirectory (path : List Char) : Bool :=
  match (path.splitOn '/').getLast? with
  | some last => last.isEmpty || last == ['.']
  | none => false

/-- The directory that a path starts from. -/
def base? (m : Machine) (path : List Char) : Option (List (List Char)) :=
  if isAbsolute path then some [] else m.currentDirectory

/-- What stands under a path. -/
def find (m : Machine) (path : List Char) : Stored :=
  if path.isEmpty || path.contains '\x00' then .absent
  else match m.base? path with
    | none => .absent
    | some base =>
      match m.follow base.reverse (parts path) with
      | .directory => .directory
      | found => if namesDirectory path then .absent else found

/-- Whether something stands under a path. -/
def hasPath (m : Machine) (path : List Char) : Bool := m.find path != .absent

/-! ## Programs -/

/-- How many parts a relative path has.  A single dot counts only at its front. -/
def depth (path : List Char) : Nat :=
  (parts path).length + if (path.splitOn '/').head? = some ['.'] then 1 else 0

/-- The absolute path with some parts. -/
def rooted (parts : List (List Char)) : List Char := parts.flatMap ('/' :: ·)

/-- Whether a relative path leads to a program.  A path of several parts starts from the current
directory, if that is known, and a slash at its end does not count.  All else is looked up in the
directories of the search path. -/
def hasProgram (m : Machine) (path : List Char) : Bool :=
  match if 1 < depth path then m.currentDirectory else none with
  | some here => m.find (rooted (here ++ parts path)) = .program
  | none => m.searchPath.any fun dir => m.find (rooted dir ++ '/' :: path) = .program

end Machine

end SharedTerminal
