import SharedTerminal.Text.Numeral

/-!
# Internet addresses

Addresses of 32 and of 128 bits, and the strict notation in which a configuration gives them: four
decimal numbers without leading zeros, or groups of up to four hexadecimal digits, of which one
run of zeros may be left out and the last two may be written as a 32-bit address.

An address is written back in its shortest form.  The longest run of at least two zero groups, the
first of several, is left out.
-/

namespace SharedTerminal

/-- An address of 32 bits. -/
structure Ipv4 where
  /-- The address as a number. -/
  bits : UInt32
deriving DecidableEq, Repr

/-- An address of 128 bits. -/
structure Ipv6 where
  /-- The groups of 16 bits, the most significant first. -/
  groups : List UInt16
  /-- There are eight of them. -/
  length_eq : groups.length = 8
deriving DecidableEq, Repr

/-- An address of either kind. -/
inductive Ip where
  /-- An address of 32 bits. -/
  | four (address : Ipv4)
  /-- An address of 128 bits. -/
  | six (address : Ipv6)
deriving DecidableEq, Repr

/-! ## Addresses of 32 bits -/

namespace Ipv4

/-- The four bytes of an address. -/
def octets (a : Ipv4) : List Nat :=
  let n := a.bits.toNat
  [n / 256 / 256 / 256, n / 256 / 256 % 256, n / 256 % 256, n % 256]

/-- The address with four bytes. -/
def ofOctets (a b c d : Nat) : Ipv4 := ⟨UInt32.ofNat (((a * 256 + b) * 256 + c) * 256 + d)⟩

/-- An address as four decimal numbers. -/
def text (a : Ipv4) : List Char := ['.'].intercalate (a.octets.map fun n => (toString n).toList)

/-- A decimal number below 256 without a leading zero. -/
def octet? (text : List Char) : Option Nat :=
  if text.length ≤ 3 && (text.length ≤ 1 || text.head? != some '0') then
    (Numeral.parse? 10 text).filter (· < 256)
  else none

/-- Reads four decimal numbers. -/
def parse? (text : List Char) : Option Ipv4 :=
  match text.splitOn '.' with
  | [a, b, c, d] => do return ofOctets (← octet? a) (← octet? b) (← octet? c) (← octet? d)
  | _ => none

end Ipv4

/-! ## Addresses of 128 bits -/

namespace Ipv6

/-- A group of one to four hexadecimal digits. -/
def group? (text : List Char) : Option UInt16 :=
  if text.length ≤ 4 then (Numeral.parse? 16 text).map UInt16.ofNat else none

/-- Reads groups between colons.  The last one may be an address of 32 bits, which is two groups. -/
def groups? : List (List Char) → Option (List UInt16)
  | [] => some []
  | [last] =>
    match group? last with
    | some g => some [g]
    | none => do
      let n := (← Ipv4.parse? last).bits.toNat
      return [UInt16.ofNat (n / UInt16.size), UInt16.ofNat (n % UInt16.size)]
  | first :: rest => do return (← group? first) :: (← groups? rest)

/-- The groups of a text between colons; no text is no group. -/
def run? (text : List Char) : Option (List UInt16) :=
  if text.isEmpty then some [] else groups? (text.splitOn ':')

/-- What stands before and after the first two colons in a row. -/
def splitGap? : List Char → Option (List Char × List Char)
  | ':' :: ':' :: rest => some ([], rest)
  | c :: rest => (splitGap? rest).map fun (before, after) => (c :: before, after)
  | [] => none

/-- The address with eight groups. -/
def ofGroups? (groups : List UInt16) : Option Ipv6 :=
  if h : groups.length = 8 then some ⟨groups, h⟩ else none

/-- Reads an address.  Two colons stand for one or more groups of zeros. -/
def parse? (text : List Char) : Option Ipv6 :=
  match splitGap? text with
  | none => do ofGroups? (← run? text)
  | some (before, after) => do
    let head ← if before.contains '.' then none else run? before
    let tail ← run? after
    if head.length + tail.length ≤ 7 then
      ofGroups? (head ++ List.replicate (8 - (head.length + tail.length)) 0 ++ tail)
    else none

/-- How many groups of zeros a list begins with. -/
def zeros (groups : List UInt16) : Nat := (groups.takeWhile (· == 0)).length

/-- The place and the length of the longest run of zero groups, the first of several.  `place`
counts the groups before `groups`. -/
def longestGap : Nat → List UInt16 → Nat × Nat
  | place, [] => (place, 0)
  | place, g :: groups =>
    let (next, best) := longestGap (place + 1) groups
    let here := zeros (g :: groups)
    if best ≤ here then (place, here) else (next, best)

/-- Groups between colons. -/
def groupsText (groups : List UInt16) : List Char :=
  [':'].intercalate (groups.map fun g => Numeral.lowerHex g.toNat)

/-- An address in its shortest form, all groups hexadecimal. -/
def text (a : Ipv6) : List Char :=
  let (place, length) := longestGap 0 a.groups
  if 2 ≤ length then
    groupsText (a.groups.take place) ++ [':', ':'] ++ groupsText (a.groups.drop (place + length))
  else groupsText a.groups

/-- The 32-bit address that is embedded in one of 128 bits. -/
def embedded? (a : Ipv6) : Option Ipv4 :=
  match a.groups with
  | [0, 0, 0, 0, 0, 0xFFFF, high, low] => some ⟨UInt32.ofNat (high.toNat * UInt16.size + low.toNat)⟩
  | _ => none

/-- An address in its shortest form, an embedded one in decimal. -/
def mixedText (a : Ipv6) : List Char :=
  match a.embedded? with
  | some four => [':', ':', 'f', 'f', 'f', 'f', ':'] ++ four.text
  | none => a.text

end Ipv6

/-! ## Sockets -/

namespace Ip

/-- Reads an address of either kind. -/
def parse? (text : List Char) : Option Ip :=
  match Ipv4.parse? text with
  | some a => some (four a)
  | none => (Ipv6.parse? text).map six

/-- Whether an address is one of every machine: that of the machine itself, or the one that stands
for all of its addresses. -/
def isLocal : Ip → Bool
  | four a => a.octets.head? = some 127 || a.bits = 0
  | six a =>
    match a.embedded?, a.groups with
    | some inner, _ => inner.octets.head? = some 127 || inner.bits = 0
    | none, [0, 0, 0, 0, 0, 0, 0, last] => last ≤ 1
    | none, _ => false

/-- An address and a port. -/
def socketText (port : Nat) : Ip → List Char
  | four a => a.text ++ ':' :: (toString port).toList
  | six a => ['['] ++ a.mixedText ++ [']', ':'] ++ (toString port).toList

end Ip

end SharedTerminal
