import SharedTerminal.Text.Percent

/-!
# Log files

A session can keep its output in a file of the log directory.  The name of the file is made from
the context by the encoding of HTML forms, so that different contexts have different files and no
context leads out of the directory.
-/

namespace SharedTerminal.Session.LogFile

/-- The name of the log file of a context. -/
def name (context : String) : String :=
  if context.isEmpty then "default.log"
  else "context-" ++ String.ofList (Percent.formEncode context.toList) ++ ".log"

/-- A path that goes on from a directory to one of its files. -/
def within (dir file : String) : String :=
  if dir.isEmpty then file
  else if dir.toList.getLast? == some '/' then dir ++ file
  else dir ++ "/" ++ file

/-- The path of the log file of a context. -/
def path (dir context : String) : String := within dir (name context)

end SharedTerminal.Session.LogFile
