import SharedTerminal.Config.Document

/-!
# Loading and saving a configuration

A configuration file that is not there stands for the defaults.  To save one, the directories on
the way to it are made first.
-/

namespace SharedTerminal.Config

/-- Why a configuration file cannot be read or written. -/
inductive FileError where
  /-- The file cannot be read as text. -/
  | unreadable (path : String)
  /-- The file is no configuration. -/
  | misfit (path : String) (document : List Char) (misfit : Misfit)
  /-- A directory cannot be made. -/
  | noDirectory (path : String)
  /-- The configuration cannot be written as a document. -/
  | unwritable
  /-- The file cannot be written. -/
  | noFile (path : String)
deriving DecidableEq, Repr

namespace FileError

/-- The text of an error, without its cause. -/
def message : FileError → String
  | unreadable path => "Failed to read config file: " ++ path
  | misfit path _ _ => "Failed to parse config file: " ++ path
  | noDirectory path => "Failed to create config directory: " ++ path
  | unwritable => "Failed to serialize configuration to TOML"
  | noFile path => "Failed to write config file: " ++ path

end FileError

/-- Loads the configuration from what stands under a path, for a default shell. -/
def load (shell path : String) (stored : Stored) : Except FileError Config :=
  match stored with
  | .absent => .ok (defaults shell)
  | .file content =>
    match Utf8.decode? content with
    | none => .error (.unreadable path)
    | some document =>
      match parse shell document with
      | .ok c => .ok c
      | .error m => .error (.misfit path document m)
  | _ => .error (.unreadable path)

/-- A directory that can be written to: what stands under paths of names below it. -/
abbrev Folder : Type := List (List (List Char) × Stored)

namespace Folder

/-- What stands under a path of names. -/
def standing (f : Folder) (path : List (List Char)) : Stored :=
  if path.isEmpty then .directory else (f.lookup path).getD .absent

/-- Makes the directories along a path; names lead on from `here`, given in reverse.  A file on
the way is in the way. -/
def makeDirectories? : Folder → (here : List (List Char)) → List (List Char) →
    Option (Folder × List (List Char))
  | f, here, [] => some (f, here)
  | f, here, name :: rest =>
    if name = ['.', '.'] then makeDirectories? f here.tail rest
    else
      let next := name :: here
      match f.standing next.reverse with
      | .directory => makeDirectories? f next rest
      | .absent => makeDirectories? (f ++ [(next.reverse, .directory)]) next rest
      | _ => none

/-- Writes a file. -/
def write? (f : Folder) (path : List (List Char)) (content : Bytes) : Option Folder :=
  match f.standing path with
  | .directory => none
  | _ => some (f.filter (fun e => e.1 ≠ path) ++ [(path, .file content)])

end Folder

/-- The path without its last part. -/
def parent (path : List Char) : List Char :=
  let trimmed := (path.reverse.dropWhile (· == '/')).reverse
  let last := (trimmed.reverse.takeWhile (· != '/')).reverse
  ((trimmed.take (trimmed.length - last.length)).reverse.dropWhile (· == '/')).reverse

/-- Saves a configuration under a path within a folder, and gives the folder and the text.  The
folder itself stands under the path `root`. -/
def save (root : String) (c : Config) (path : String) (f : Folder) :
    Except FileError (Folder × String) :=
  let directory := parent path.toList
  let file := (Machine.parts path.toList).getLast?
  match f.makeDirectories? [] (Machine.parts directory) with
  | none => .error (.noDirectory (Session.LogFile.within root (String.ofList directory)))
  | some (f, here) =>
    match c.toDocument? with
    | none => .error .unwritable
    | some document =>
      match f.write? (here.reverse ++ file.toList) (utf8 document) with
      | none => .error (.noFile (Session.LogFile.within root path))
      | some f => .ok (f, document)

end SharedTerminal.Config
