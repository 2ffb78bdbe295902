import SharedTerminal.Text.Quoted

/-!
# Shape faults

A document of a data format is read in two stages: the text becomes a tree of values, and the
tree is matched against the shape of a message or a configuration.  A `Fault` says what went
wrong, in terms that do not depend on the format; `Fault.message` words it.
-/

namespace SharedTerminal.Shape

/-- What stood where another shape was expected. -/
inductive Found where
  /-- The absence of a value. -/
  | null
  /-- A truth value. -/
  | boolean (value : Bool)
  /-- A whole number. -/
  | integer (value : Int)
  /-- A number with a fraction or an exponent, by its text. -/
  | fraction (text : String)
  /-- A text. -/
  | text (value : String)
  /-- An array. -/
  | sequence
  /-- An object or a table. -/
  | map
deriving DecidableEq, Repr

namespace Found

/-- The wording for a value that was found. -/
def describe : Found → String
  | null => "null"
  | boolean b => "boolean `" ++ (if b then "true" else "false") ++ "`"
  | integer i => "integer `" ++ toString i ++ "`"
  | fraction t => "floating point `" ++ t ++ "`"
  | text s => "string " ++ Quoted.quote s
  | sequence => "sequence"
  | map => "map"

end Found

/-- Why a document is refused. -/
inductive Fault where
  /-- The text is not a document of the format. -/
  | malformed
  /-- A field that has no default is absent. -/
  | missingField (name : String)
  /-- A field occurs twice. -/
  | duplicateField (name : String)
  /-- A name is none of those known. -/
  | unknownVariant (found : String) (known : List String)
  /-- A value has another type than expected. -/
  | invalidType (found : Found) (expected : String)
  /-- A value has the type expected and lies outside its range. -/
  | invalidValue (found : Found) (expected : String)
  /-- An array has another length than expected. -/
  | invalidLength (length : Nat) (expected : String)
deriving DecidableEq, Repr

namespace Fault

/-- A name between backquotes. -/
def ticked (s : String) : String := "`" ++ s ++ "`"

/-- The wording for a choice of names. -/
def choice : List String → String
  | [] => "there are no variants"
  | [a] => "expected " ++ ticked a
  | [a, b] => "expected " ++ ticked a ++ " or " ++ ticked b
  | names => "expected one of " ++ ", ".intercalate (names.map ticked)

/-- The text of a fault. -/
def message : Fault → String
  | malformed => "malformed document"
  | missingField name => "missing field " ++ ticked name
  | duplicateField name => "duplicate field " ++ ticked name
  | unknownVariant found known => "unknown variant " ++ ticked found ++ ", " ++ choice known
  | invalidType found expected =>
    "invalid type: " ++ found.describe ++ ", expected " ++ expected
  | invalidValue found expected =>
    "invalid value: " ++ found.describe ++ ", expected " ++ expected
  | invalidLength length expected =>
    "invalid length " ++ toString length ++ ", expected " ++ expected

/-- Whether the fault is one of shape, so that its text can be shown. -/
def isShape : Fault → Bool
  | malformed => false
  | _ => true

end Fault

end SharedTerminal.Shape
