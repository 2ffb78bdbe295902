import SharedTerminal.Text.Direction
import SharedTerminal.Text.Joining
import SharedTerminal.Url.Mapping
import SharedTerminal.Url.Punycode

/-!
# Domain names in ASCII

A domain name is mapped character by character, brought into its composed form, split into labels at
its dots, and every label that is not ASCII is spelled in Punycode behind the mark `xn--`.  A label
that carries the mark already has to spell a label that the mapping would leave alone.  If a
character of the name is written from right to left, every label keeps a rule about directions.
-/

namespace SharedTerminal.Url.Domain

/-- The mark of a label in Punycode. -/
def mark : List Char := ['x', 'n', '-', '-']

/-- The ASCII characters that a domain name may not contain: those that mean something else in a
URL, the blank and the controls. -/
def isForbidden (c : Char) : Bool :=
  c.toNat ≤ 0x20 || c.toNat = 0x7F
    || ['%', '#', '/', ':', '<', '>', '?', '@', '[', '\\', ']', '^', '|'].contains c

/-- A name after the mapping. -/
def map? : List Char → Option (List Char)
  | [] => some []
  | c :: rest =>
    match Mapping.fate c with
    | .kept => (map? rest).map (c :: ·)
    | .ignored => map? rest
    | .refused => none
    | .replaced cs => (map? rest).map (cs ++ ·)

/-- Whether a label can stand in a name: the mapping leaves it alone, it is composed, it does not
begin with a mark, and its joiners stand where they matter. -/
def isValid (label : List Char) : Bool :=
  label.all (fun c => Mapping.fate c = .kept) && Unicode.normalize label = label
    && !label.head?.any (fun c => (Unicode.Direction.of c).isMark) && Unicode.Joining.fits [] label

/-- What a mapped label spells, if it is a label. -/
def spelled? (label : List Char) : Option (List Char) :=
  match mark.isPrefixOf? label with
  | some rest => do
    let decoded ← Punycode.decode? rest
    if decoded.all Unicode.isAscii || !isValid decoded then none else some decoded
  | none => if label.all Unicode.isAscii || isValid label then some label else none

/-- The ASCII spelling of a label. -/
def spelling (label : List Char) : List Char :=
  if label.all Unicode.isAscii then label else mark ++ Punycode.encode label

/-- Whether the labels of a name keep the rule about directions, if it matters. -/
def keepsDirections (labels : List (List Char)) : Bool :=
  let directions := labels.map (·.map Unicode.Direction.of)
  !directions.any (·.any Unicode.Direction.turns) || directions.all Unicode.Direction.keepsRule

/-- The ASCII spelling of a domain name. -/
def toAscii? (name : List Char) : Option (List Char) := do
  let mapped ← map? name
  let labels := (Unicode.normalize mapped).splitOn '.'
  let spelled ← labels.mapM spelled?
  let ascii := ['.'].intercalate (spelled.map spelling)
  if ascii.any isForbidden || !keepsDirections spelled then none else some ascii

end SharedTerminal.Url.Domain
