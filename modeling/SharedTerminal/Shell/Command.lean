/-!
# Commands

The tree of a command line.  A word is a list of parts, which are expanded when the command runs;
commands are joined by pipes, by success and failure, and one after the other.
-/

namespace SharedTerminal.Shell

/-- Where a redirection leads. -/
inductive Direction where
  /-- To input from a file. -/
  | input
  /-- To output into a file, which is emptied first. -/
  | output
  /-- To output at the end of a file. -/
  | append
  /-- To a copy of another descriptor. -/
  | copy
  /-- To input that stands in the script.  A line has no room for it, so it is empty. -/
  | here
deriving DecidableEq, Repr

/-- What stands in for a variable. -/
inductive Substitute where
  /-- The word, if the variable has no value. -/
  | fallback
  /-- The word, which is assigned, if the variable has no value. -/
  | assigned
  /-- The word, if the variable has a value, and nothing otherwise. -/
  | alternative
deriving DecidableEq, Repr

mutual

/-- A part of a word.  The flag tells whether it stands in quotes. -/
inductive Part where
  /-- Text that stands for itself. -/
  | text (chars : List Char) (quoted : Bool)
  /-- The value of a variable. -/
  | variable (name : List Char) (quoted : Bool)
  /-- The length of the value of a variable. -/
  | length (name : List Char)
  /-- The value of a variable or what stands in for it.  The first flag tells whether an empty
  value counts as none. -/
  | substitute (name : List Char) (kind : Substitute) (orEmpty : Bool) (word : List Part)
      (quoted : Bool)
  /-- What a script writes. -/
  | output (script : Command) (quoted : Bool)
  /-- The value of an expression. -/
  | value (expression : List Part)

/-- A redirection of a descriptor. -/
inductive Redirection where
  /-- Leads the descriptor, or the usual one, to a target. -/
  | mk (descriptor : Option Nat) (direction : Direction) (target : List Part)

/-- A command. -/
inductive Command where
  /-- No command. -/
  | nothing
  /-- Assignments, the words of a command, and its redirections. -/
  | simple (assignments : List (List Char × List Part)) (words : List (List Part))
      (redirections : List Redirection)
  /-- Commands joined by pipes; the flag tells whether success and failure are exchanged. -/
  | pipeline (negated : Bool) (commands : List Command)
  /-- A command, and another one if the first succeeds. -/
  | both (first second : Command)
  /-- A command, and another one if the first fails. -/
  | either (first second : Command)
  /-- A command, and another one after it. -/
  | sequence (first second : Command)
  /-- A command with redirections. -/
  | redirected (body : Command) (redirections : List Redirection)
  /-- A command whose changes are undone at its end. -/
  | subshell (body : Command)
  /-- One of two commands, by the success of a condition. -/
  | branch (condition body otherwise : Command)
  /-- A command that is repeated while the success of a condition is as given. -/
  | loop (whileSuccess : Bool) (condition body : Command)
  /-- A command for each word, or for each argument if no words are given. -/
  | each (name : List Char) (words : Option (List (List Part))) (body : Command)

end

/-- A word. -/
abbrev Word : Type := List Part

end SharedTerminal.Shell
