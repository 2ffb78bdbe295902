import SharedTerminal.Url.Host
import SharedTerminal.Url.Path

/-!
# URLs

Reads and writes URLs by the rules of the web.  A URL of one of the schemes `http`, `https`, `ws`,
`wss` and `ftp` is taken apart; of any other it is only checked that it is one.

Around the text blanks and controls do not count, and tabs and line ends do not count anywhere.
The scheme and the host are put into lower case, a port that is the usual one of the scheme is
left out, and what cannot stand in a URL is percent-encoded.
-/

namespace SharedTerminal

/-- A URL of one of the known schemes. -/
structure Url where
  /-- The scheme. -/
  scheme : String
  /-- The user name; it may be empty. -/
  user : List Char
  /-- The password; it may be empty. -/
  password : List Char
  /-- The host. -/
  host : Url.Host
  /-- The port, if it is not the usual one. -/
  port : Option Nat
  /-- The segments of the path. -/
  path : List (List Char)
  /-- What follows a question mark, if there is one. -/
  query : Option (List Char)
  /-- What follows a number sign, if there is one. -/
  fragment : Option (List Char)
deriving DecidableEq, Repr

namespace Url

/-- A checked text. -/
inductive Parsed where
  /-- A URL of a known scheme. -/
  | known (url : Url)
  /-- A URL of another scheme. -/
  | other (scheme : String)
deriving DecidableEq, Repr

/-- The scheme of a URL. -/
def Parsed.scheme : Parsed → String
  | known url => url.scheme
  | other s => s

/-! ## Parts of a text -/

/-- The text without the blanks and controls around it, and without tabs and line ends. -/
def cleaned (text : List Char) : List Char :=
  let blank := fun c : Char => c.toNat ≤ 0x20
  (((text.dropWhile blank).reverse.dropWhile blank).reverse).filter fun c => !isLeftOut c

/-- Whether a character can be part of a scheme. -/
def isSchemeChar (c : Char) : Bool := c.isAlphanum || c == '+' || c == '-' || c == '.'

/-- The scheme, in lower case, and what follows its colon. -/
def splitScheme? (text : List Char) : Option (List Char × List Char) :=
  let scheme := text.takeWhile isSchemeChar
  match text.drop scheme.length with
  | ':' :: rest =>
    if scheme.head?.any Char.isAlpha then some (scheme.map Char.toLower, rest) else none
  | _ => none

/-- The usual ports of the known schemes. -/
def usualPorts : List (String × Nat) :=
  [("http", 80), ("https", 443), ("ws", 80), ("wss", 443), ("ftp", 21)]

/-- Whether a character is a slash or a backslash. -/
def isSlash (c : Char) : Bool := c == '/' || c == '\\'

/-- Whether a character ends the authority of a URL; `known` tells whether its scheme is known. -/
def endsAuthority (known : Bool) (c : Char) : Bool :=
  c == '/' || c == '?' || c == '#' || (known && c == '\\')

/-- Splits an authority at its last at sign: the user information, if there is any, and the
rest. -/
def splitUser (authority : List Char) : Option (List Char) × List Char :=
  let after := (authority.reverse.takeWhile (· != '@')).reverse
  if after.length = authority.length then (none, authority)
  else (some (authority.take (authority.length - after.length - 1)), after)

/-- Splits host and port at the first colon that is not in square brackets. -/
def splitPort : Bool → List Char → List Char × Option (List Char)
  | _, [] => ([], none)
  | inside, c :: rest =>
    if c = ':' ∧ !inside then ([], some rest)
    else
      let (host, port) := splitPort (if c = '[' then true else if c = ']' then false else inside)
        rest
      (c :: host, port)

/-- Reads a port; nothing is no port. -/
def port? (digits : List Char) : Except Error (Option Nat) :=
  if digits.isEmpty then .ok none
  else match Numeral.parse? 10 digits with
    | some n => if n ≤ 65535 then .ok (some n) else .error .badPort
    | none => .error .badPort

/-- The text before a mark, and what follows it if it is there. -/
def splitMark (mark : Char) (text : List Char) : List Char × Option (List Char) :=
  let before := text.takeWhile (· != mark)
  match text.drop before.length with
  | [] => (before, none)
  | _ :: after => (before, some after)

/-! ## Reading -/

/-- Reads a URL of a known scheme after the slashes. -/
def ofAuthority (scheme : String) (usualPort : Nat) (text : List Char) : Except Error Url := do
  let authority := text.takeWhile fun c => !endsAuthority true c
  let rest := text.drop authority.length
  let (user, site) := splitUser authority
  let (hostText, portText) := splitPort false site
  if hostText.isEmpty then throw .emptyHost
  let host ← Host.parse hostText
  let port ← port? (portText.getD [])
  let (rest, fragment) := splitMark '#' rest
  let (path, query) := splitMark '?' rest
  let (name, password) := splitMark ':' (user.getD [])
  return {
    scheme := scheme
    user := Percent.encode isUserSafe name
    password := Percent.encode isUserSafe (password.getD [])
    host := host
    port := port.filter (· ≠ usualPort)
    path := Path.parse path
    query := query.map (Percent.encode isQuerySafe)
    fragment := fragment.map (Percent.encode isFragmentSafe) }

/-- Checks a URL of another scheme after two slashes. -/
def checkAuthority (text : List Char) : Except Error Unit := do
  let authority := text.takeWhile fun c => !endsAuthority false c
  let rest := text.drop authority.length
  let (user, site) := splitUser authority
  let (hostText, portText) := splitPort false site
  if user = some [] ∧ site.isEmpty ∧ !rest.isEmpty then throw .emptyHost
  Host.check hostText
  if hostText.isEmpty ∧ portText.isSome then throw .emptyHost
  let _ ← port? ((portText.getD []).takeWhile (· != '\\'))
  if hostText.isEmpty ∧ user.any (fun u => !u.isEmpty && u != [':']) then throw .emptyHost

/-- Checks the host of a file, which may be missing or the name of a drive. -/
def checkFile (text : List Char) : Except Error Unit :=
  match text with
  | a :: b :: rest =>
    let host := rest.takeWhile fun c => !endsAuthority true c
    if isSlash a && isSlash b && !host.isEmpty && !Path.isDrive host then do
      let _ ← Host.parse host
    else .ok ()
  | _ => .ok ()

/-- Reads a URL. -/
def parse (text : String) : Except Error Parsed :=
  match splitScheme? (cleaned text.toList) with
  | none => .error .noBase
  | some (schemeText, rest) =>
    let scheme := String.ofList schemeText
    match usualPorts.lookup scheme with
    | some usual => do return .known (← ofAuthority scheme usual (rest.dropWhile isSlash))
    | none => do
      if scheme == "file" then checkFile rest
      else match rest with
        | '/' :: '/' :: rest => checkAuthority rest
        | _ => pure ()
      return .other scheme

/-! ## Writing -/

/-- The user name and the password, with the at sign after them. -/
def userText (url : Url) : List Char :=
  let password := if url.password.isEmpty then [] else ':' :: url.password
  let all := url.user ++ password
  if all.isEmpty then [] else all ++ ['@']

/-- A mark and what follows it, if there is anything. -/
def marked (mark : Char) : Option (List Char) → List Char
  | none => []
  | some text => mark :: text

/-- A URL as a text. -/
def text (url : Url) : String :=
  String.ofList <|
    url.scheme.toList ++ [':', '/', '/'] ++ url.userText ++ url.host.text
      ++ marked ':' (url.port.map fun n => (toString n).toList) ++ Path.text url.path
      ++ marked '?' url.query ++ marked '#' url.fragment

/-- The URL with another path and no query. -/
def withPath (url : Url) (path : List Char) : Url :=
  { url with path := Path.parse path, query := none }

end Url

end SharedTerminal
