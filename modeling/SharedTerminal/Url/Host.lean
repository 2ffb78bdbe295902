import SharedTerminal.Ip
import SharedTerminal.Text.Percent
import SharedTerminal.Url.Domain

/-!
# Hosts

The host of a URL is a domain name or an address.  A text in square brackets is an address of 128
bits.  A domain name whose last label is a number is an address of 32 bits, in a notation with
one to four parts, each decimal, octal or hexadecimal, of which the last fills what is left.
-/

namespace SharedTerminal.Url

/-- Why a text is no URL. -/
inductive Error where
  /-- There is no scheme. -/
  | noBase
  /-- There is no host. -/
  | emptyHost
  /-- The port is no number of 16 bits. -/
  | badPort
  /-- The host looks like an address of 32 bits and is none. -/
  | badIpv4
  /-- The host is in square brackets and no address. -/
  | badIpv6
  /-- The host is no domain name. -/
  | badName
  /-- The host contains a character that it must not. -/
  | badCharacter
deriving DecidableEq, Repr

/-- The text of an error. -/
def Error.message : Error → String
  | noBase => "relative URL without a base"
  | emptyHost => "empty host"
  | badPort => "invalid port number"
  | badIpv4 => "invalid IPv4 address"
  | badIpv6 => "invalid IPv6 address"
  | badName => "invalid international domain name"
  | badCharacter => "invalid domain character"

/-- The host of a URL. -/
inductive Host where
  /-- A domain name, in ASCII. -/
  | name (text : List Char)
  /-- An address of 32 bits. -/
  | four (address : Ipv4)
  /-- An address of 128 bits. -/
  | six (address : Ipv6)
deriving DecidableEq, Repr

namespace Host

/-- A host as it stands in a URL. -/
def text : Host → List Char
  | name t => t
  | four a => a.text
  | six a => ['['] ++ a.text ++ [']']

/-! ## Addresses of 32 bits -/

/-- The number that a part spells: hexadecimal after `0x`, octal after `0`, else decimal. -/
def part? (text : List Char) : Option Nat :=
  match text with
  | '0' :: x :: rest =>
    if x = 'x' ∨ x = 'X' then if rest.isEmpty then some 0 else Numeral.parse? 16 rest
    else Numeral.parse? 8 (x :: rest)
  | _ => Numeral.parse? 10 text

/-- The labels of a name; one empty label at the end does not count. -/
def labels (name : List Char) : List (List Char) :=
  let parts := name.splitOn '.'
  if parts.getLast? = some [] then parts.dropLast else parts

/-- Whether the last label of a name is a number. -/
def endsInNumber (name : List Char) : Bool :=
  match (labels name).getLast? with
  | none => false
  | some last => (!last.isEmpty && last.all Numeral.isDigit) || (part? last).isSome

/-- The address with given parts, of which the last fills what the others leave. -/
def ofParts? : Nat → List Nat → Option Nat
  | _, [] => none
  | room, [last] => if last < Nat.pow 256 room then some last else none
  | 0, _ => none
  | room + 1, n :: rest => do
    let below ← ofParts? room rest
    if n < 256 then some (n * Nat.pow 256 room + below) else none

/-- Reads an address of 32 bits. -/
def parseFour? (name : List Char) : Option Ipv4 := do
  let parts ← (labels name).mapM part?
  if 4 < parts.length then none else return ⟨UInt32.ofNat (← ofParts? 4 parts)⟩

/-! ## All hosts -/

/-- Reads an address in square brackets. -/
def parseBracketed (text : List Char) : Except Error Host :=
  match text.getLast?, Ipv6.parse? text.tail.dropLast with
  | some ']', some a => .ok (six a)
  | _, _ => .error .badIpv6

/-- Reads the host of a URL with a known scheme. -/
def parse (text : List Char) : Except Error Host :=
  if text.head? = some '[' then parseBracketed text
  else match Utf8.decode? (Percent.decode (Utf8.encode text)) with
    | none => .error .badName
    | some decoded =>
      match Domain.toAscii? decoded with
      | none => .error .badName
      | some [] => .error .emptyHost
      | some ascii =>
        if endsInNumber ascii then
          match parseFour? ascii with
          | some a => .ok (four a)
          | none => .error .badIpv4
        else .ok (name ascii)

/-- Checks the host of a URL with a scheme of its own. -/
def check (text : List Char) : Except Error Unit :=
  if text.head? = some '[' then do
    let _ ← parseBracketed text
  else if text.any fun c =>
      ['\x00', '\t', '\n', '\r', ' ', '#', '/', ':', '<', '>', '?', '@', '[', '\\', ']', '^',
        '|'].contains c then .error .badCharacter
  else .ok ()

end Host

end SharedTerminal.Url
