import SharedTerminal.Shell.Command

/-!
# Reading command lines

The tree of a line.  The reader goes down the grammar: a list of commands, joined by conditions,
pipes and separators; a compound command, recognised by its first word; or a simple command.  Every
step down or forward uses up some of a number that the length of the line bounds.
-/

namespace SharedTerminal.Shell.Reader

/-- A step of the reader: it looks at what is left of the line, and fails with the text of a
complaint. -/
abbrev Reading : Type → Type := StateT (List Char) (Except String)

/-! ## Characters and tokens -/

/-- Whether a character ends a word. -/
def endsWord (c : Char) : Bool := " \t\n;&|<>()".contains c

/-- Whether a character can begin a name. -/
def beginsName (c : Char) : Bool := c.isAlpha || c == '_'

/-- Whether a character can stand in a name. -/
def isNameChar (c : Char) : Bool := c.isAlphanum || c == '_'

/-- What is left after blanks and a comment. -/
def skipBlanks : List Char → List Char
  | [] => []
  | '\\' :: '\n' :: rest => skipBlanks rest
  | '#' :: rest => rest.dropWhile (· != '\n')
  | c :: rest => if c == ' ' || c == '\t' then skipBlanks rest else c :: rest

/-- The words that have a meaning of their own at the beginning of a command. -/
def keywords : List String :=
  ["!", "\x7b", "\x7d", "if", "then", "elif", "else", "fi", "for", "while", "until", "do", "done",
    "case", "esac", "in"]

/-- The keyword at the front, and what is left after it. -/
def keyword? (line : List Char) : Option (String × List Char) :=
  let word := line.takeWhile fun c => !endsWord c
  if keywords.contains (String.ofList word) then some (String.ofList word, line.drop word.length)
  else none

/-- The keywords that end a list of commands. -/
def closers : List String := ["then", "elif", "else", "fi", "do", "done", "esac", "\x7d"]

/-- Whether a list of commands ends in front of something. -/
def isClosed (line : List Char) : Bool :=
  match line with
  | [] => true
  | ')' :: _ => true
  | _ => match keyword? line with
    | some (word, _) => closers.contains word
    | none => false

/-- What a complaint calls the token at the front. -/
def tokenName (line : List Char) : String :=
  match line with
  | [] => "end of file"
  | '\n' :: _ => "newline"
  | ';' :: ';' :: _ => "\";;\""
  | '&' :: '&' :: _ => "\"&&\""
  | '|' :: '|' :: _ => "\"||\""
  | '<' :: _ | '>' :: _ => "redirection"
  | c :: _ =>
    if endsWord c then "\"" ++ String.ofList [c] ++ "\""
    else match keyword? line with
      | some (word, _) => "\"" ++ word ++ "\""
      | none => "word"

/-- Complains about the token at the front. -/
def unexpected {α : Type} (expecting : Option String) : Reading α := do
  let line := skipBlanks (← get)
  throw (tokenName line ++ " unexpected" ++ match expecting with
    | some word => " (expecting \"" ++ word ++ "\")"
    | none => "")

/-- Takes a keyword. -/
def expectKeyword (word : String) : Reading Unit := do
  modify skipBlanks
  match keyword? (← get) with
  | some (found, rest) => if found == word then set rest else unexpected (some word)
  | none => unexpected (some word)

/-- Takes a character. -/
def expectChar (c : Char) : Reading Unit := do
  modify skipBlanks
  match ← get with
  | d :: rest => if d == c then set rest else unexpected (some (String.ofList [c]))
  | [] => unexpected (some (String.ofList [c]))

/-- Goes past line ends and blanks. -/
def skipLines : Nat → Reading Unit
  | 0 => pure ()
  | n + 1 => do
    modify skipBlanks
    match ← get with
    | '\n' :: rest =>
      set rest
      skipLines n
    | _ => pure ()

/-- The text up to the next backquote, without the backslashes that protect backquotes,
backslashes and dollar signs, and what is left after it. -/
def backquoted : List Char → Option (List Char × List Char)
  | [] => none
  | '\x60' :: rest => some ([], rest)
  | '\\' :: c :: rest =>
    (backquoted rest).map fun (inside, after) =>
      (if c == '\x60' || c == '\\' || c == '$' then c :: inside else '\\' :: c :: inside, after)
  | c :: rest => (backquoted rest).map fun (inside, after) => (c :: inside, after)

/-- The operator of a redirection at the front, with the descriptor before it. -/
def redirection? (line : List Char) : Option (Option Nat × Direction × List Char) :=
  let digits := line.takeWhile Char.isDigit
  let descriptor := (String.ofList digits).toNat?
  match line.drop digits.length with
  | '>' :: '>' :: rest => some (descriptor, .append, rest)
  | '>' :: '&' :: rest => some (descriptor, .copy, rest)
  | '>' :: '|' :: rest => some (descriptor, .output, rest)
  | '>' :: rest => some (descriptor, .output, rest)
  | '<' :: '<' :: rest => some (descriptor, .here, rest)
  | '<' :: '&' :: rest => some (some (descriptor.getD 0), .copy, rest)
  | '<' :: '>' :: rest => some (some (descriptor.getD 0), .input, rest)
  | '<' :: rest => some (descriptor, .input, rest)
  | _ => none

/-- The name that is assigned to at the front of a word, and what is left after the equals
sign. -/
def assignment? (line : List Char) : Option (List Char × List Char) :=
  let name := line.takeWhile isNameChar
  if name.head?.any beginsName then
    match line.drop name.length with
    | '=' :: rest => some (name, rest)
    | _ => none
  else none

/-- The substitutes for a variable, by the character that names them. -/
def substitute? : Char → Option Substitute
  | '-' => some .fallback
  | '=' => some .assigned
  | '+' => some .alternative
  | _ => none

/-! ## The grammar -/

mutual

/-- Reads the parts of a word. -/
def word : Nat → Reading Word
  | 0 => unexpected none
  | n + 1 => do
    match ← get with
    | '\\' :: '\n' :: rest =>
      set rest
      word n
    | '\\' :: c :: rest =>
      set rest
      return .text [c] true :: (← word n)
    | '\'' :: rest =>
      let inside := rest.takeWhile (· != '\'')
      match rest.drop inside.length with
      | _ :: after =>
        set after
        return .text inside true :: (← word n)
      | [] => throw "Unterminated quoted string"
    | '"' :: rest =>
      set rest
      let inside ← quoted n
      return .text [] true :: inside ++ (← word n)
    | '$' :: rest =>
      set rest
      let part ← dollar n false
      return part :: (← word n)
    | '\x60' :: rest =>
      let part ← backquote n rest false
      return part :: (← word n)
    | c :: rest =>
      if endsWord c then return []
      set rest
      return .text [c] false :: (← word n)
    | [] => return []

/-- Reads the parts of a word in double quotes. -/
def quoted : Nat → Reading Word
  | 0 => unexpected none
  | n + 1 => do
    match ← get with
    | [] => throw "Unterminated quoted string"
    | '"' :: rest =>
      set rest
      return []
    | '\\' :: '\n' :: rest =>
      set rest
      quoted n
    | '\\' :: c :: rest =>
      set rest
      let kept := if "$\x60\"\\".contains c then [c] else ['\\', c]
      return .text kept true :: (← quoted n)
    | '$' :: rest =>
      set rest
      let part ← dollar n true
      return part :: (← quoted n)
    | '\x60' :: rest =>
      let part ← backquote n rest true
      return part :: (← quoted n)
    | c :: rest =>
      set rest
      return .text [c] true :: (← quoted n)

/-- Reads the script in backquotes. -/
def backquote : Nat → List Char → Bool → Reading Part
  | 0, _, _ => unexpected none
  | n + 1, rest, isQuoted => do
    match backquoted rest with
    | none => throw "EOF in backquote substitution"
    | some (inside, after) =>
      set inside
      let script ← list n
      match ← get with
      | [] =>
        set after
        return .output script isQuoted
      | _ => unexpected none

/-- Reads the parts of an expression, up to the two parentheses that end it. -/
def expression : Nat → Nat → Reading Word
  | 0, _ => unexpected none
  | n + 1, depth => do
    match ← get with
    | [] => throw "Missing '))'"
    | ')' :: ')' :: rest =>
      if depth == 0 then
        set rest
        return []
      set (')' :: rest)
      return .text [')'] true :: (← expression n (depth - 1))
    | ')' :: rest =>
      set rest
      return .text [')'] true :: (← expression n (depth - 1))
    | '(' :: rest =>
      set rest
      return .text ['('] true :: (← expression n (depth + 1))
    | '$' :: rest =>
      set rest
      let part ← dollar n true
      return part :: (← expression n depth)
    | c :: rest =>
      set rest
      return .text [c] true :: (← expression n depth)

/-- Reads what follows a dollar sign. -/
def dollar : Nat → Bool → Reading Part
  | 0, _ => unexpected none
  | n + 1, isQuoted => do
    match ← get with
    | '(' :: '(' :: rest =>
      set rest
      return .value (← expression n 0)
    | '(' :: rest =>
      set rest
      let script ← list n
      expectChar ')'
      return .output script isQuoted
    | '\x7b' :: '#' :: rest =>
      let name := rest.takeWhile isNameChar
      match name, rest.drop name.length with
      | _ :: _, '\x7d' :: after =>
        set after
        return .length name
      | [], '\x7d' :: after =>
        set after
        return .variable ['#'] isQuoted
      | _, _ => throw "Bad substitution"
    | '\x7b' :: rest =>
      let name := rest.takeWhile isNameChar
      let name := if name.isEmpty then rest.take 1 else name
      match rest.drop name.length with
      | '\x7d' :: after =>
        set after
        return .variable name isQuoted
      | ':' :: c :: after =>
        match substitute? c with
        | some kind =>
          set after
          return .substitute name kind true (← braced n) isQuoted
        | none => throw "Bad substitution"
      | c :: after =>
        match substitute? c with
        | some kind =>
          set after
          return .substitute name kind false (← braced n) isQuoted
        | none => throw "Bad substitution"
      | [] => throw "Missing '\x7d'"
    | c :: rest =>
      if beginsName c then
        let name := (c :: rest).takeWhile isNameChar
        set ((c :: rest).drop name.length)
        return .variable name isQuoted
      else if "?$#@*!-0123456789".contains c then
        set rest
        return .variable [c] isQuoted
      else return .text ['$'] isQuoted
    | [] => return .text ['$'] isQuoted

/-- Reads a word up to the brace that ends it. -/
def braced : Nat → Reading Word
  | 0 => unexpected none
  | n + 1 => do
    match ← get with
    | [] => throw "Missing '\x7d'"
    | '\x7d' :: rest =>
      set rest
      return []
    | '\\' :: c :: rest =>
      set rest
      return .text [c] true :: (← braced n)
    | '\'' :: rest =>
      let inside := rest.takeWhile (· != '\'')
      match rest.drop inside.length with
      | _ :: after =>
        set after
        return .text inside true :: (← braced n)
      | [] => throw "Unterminated quoted string"
    | '"' :: rest =>
      set rest
      let inside ← quoted n
      return .text [] true :: inside ++ (← braced n)
    | '$' :: rest =>
      set rest
      let part ← dollar n false
      return part :: (← braced n)
    | c :: rest =>
      set rest
      return .text [c] false :: (← braced n)

/-- Reads commands up to something that ends the list. -/
def list : Nat → Reading Command
  | 0 => unexpected none
  | n + 1 => do
    skipLines n
    if isClosed (← get) then return .nothing
    let first ← conditions n
    modify skipBlanks
    match ← get with
    | ';' :: ';' :: _ => return first
    | ';' :: rest | '\n' :: rest =>
      set rest
      match ← list n with
      | .nothing => return first
      | second => return .sequence first second
    | '&' :: rest =>
      set rest
      match ← list n with
      | .nothing => return .subshell first
      | second => return .sequence (.subshell first) second
    | _ => return first

/-- Reads a list that is not empty.  At the end of the line it is for others to complain. -/
def body : Nat → Reading Command
  | 0 => unexpected none
  | n + 1 => do
    match ← list n, ← get with
    | .nothing, _ :: _ => unexpected none
    | command, _ => return command

/-- Reads pipelines joined by conditions. -/
def conditions : Nat → Reading Command
  | 0 => unexpected none
  | n + 1 => do moreConditions n (← pipeline n)

/-- Reads the conditions after a command. -/
def moreConditions : Nat → Command → Reading Command
  | 0, _ => unexpected none
  | n + 1, first => do
    modify skipBlanks
    match ← get with
    | '&' :: '&' :: rest =>
      set rest
      skipLines n
      moreConditions n (.both first (← pipeline n))
    | '|' :: '|' :: rest =>
      set rest
      skipLines n
      moreConditions n (.either first (← pipeline n))
    | _ => return first

/-- Reads a pipeline. -/
def pipeline : Nat → Reading Command
  | 0 => unexpected none
  | n + 1 => do
    modify skipBlanks
    match keyword? (← get) with
    | some ("!", rest) =>
      set rest
      return .pipeline true (← stages n)
    | _ =>
      match ← stages n with
      | [command] => return command
      | commands => return .pipeline false commands

/-- Reads the commands of a pipeline. -/
def stages : Nat → Reading (List Command)
  | 0 => unexpected none
  | n + 1 => do
    let first ← command n
    modify skipBlanks
    match ← get with
    | '|' :: '|' :: _ => return [first]
    | '|' :: rest =>
      set rest
      skipLines n
      return first :: (← stages n)
    | _ => return [first]

/-- Reads a command. -/
def command : Nat → Reading Command
  | 0 => unexpected none
  | n + 1 => do
    modify skipBlanks
    match ← get with
    | '(' :: rest =>
      set rest
      let inside ← body n
      expectChar ')'
      wrapped n (.subshell inside)
    | line =>
      match keyword? line with
      | some ("\x7b", rest) =>
        set rest
        let inside ← body n
        expectKeyword "\x7d"
        wrapped n inside
      | some ("if", rest) =>
        set rest
        wrapped n (← branch n)
      | some ("while", rest) =>
        set rest
        wrapped n (← loop n true)
      | some ("until", rest) =>
        set rest
        wrapped n (← loop n false)
      | some ("for", rest) =>
        set rest
        wrapped n (← each n)
      | some ("in", _) | none => simple n [] [] []
      | some (_, _) => unexpected none

/-- Reads the redirections after a compound command. -/
def wrapped : Nat → Command → Reading Command
  | 0, _ => unexpected none
  | n + 1, inside => do
    match ← redirections n with
    | [] => return inside
    | targets => return .redirected inside targets

/-- Reads redirections. -/
def redirections : Nat → Reading (List Redirection)
  | 0 => unexpected none
  | n + 1 => do
    modify skipBlanks
    match redirection? (← get) with
    | none => return []
    | some (descriptor, direction, rest) =>
      set (skipBlanks rest)
      match ← word n with
      | [] => unexpected none
      | target => return .mk descriptor direction target :: (← redirections n)

/-- Reads a condition, what follows if it holds, and what follows otherwise. -/
def branch : Nat → Reading Command
  | 0 => unexpected none
  | n + 1 => do
    let condition ← body n
    expectKeyword "then"
    let inside ← body n
    modify skipBlanks
    match keyword? (← get) with
    | some ("elif", rest) =>
      set rest
      return .branch condition inside (← branch n)
    | some ("else", rest) =>
      set rest
      let otherwise ← body n
      expectKeyword "fi"
      return .branch condition inside otherwise
    | _ =>
      expectKeyword "fi"
      return .branch condition inside .nothing

/-- Reads a condition and what is repeated. -/
def loop : Nat → Bool → Reading Command
  | 0, _ => unexpected none
  | n + 1, whileSuccess => do
    let condition ← body n
    expectKeyword "do"
    let inside ← body n
    expectKeyword "done"
    return .loop whileSuccess condition inside

/-- Reads a name, words, and what is repeated for each of them. -/
def each : Nat → Reading Command
  | 0 => unexpected none
  | n + 1 => do
    modify skipBlanks
    let line ← get
    let name := line.takeWhile isNameChar
    if !name.head?.any beginsName then throw "Bad for loop variable"
    set (line.drop name.length)
    skipLines n
    let chosen ← match keyword? (← get) with
      | some ("in", rest) => do
        set rest
        pure (some (← words n))
      | _ => pure none
    modify skipBlanks
    match ← get with
    | ';' :: rest => set rest
    | _ => pure ()
    skipLines n
    expectKeyword "do"
    let inside ← body n
    expectKeyword "done"
    return .each name chosen inside

/-- Reads words. -/
def words : Nat → Reading (List Word)
  | 0 => unexpected none
  | n + 1 => do
    modify skipBlanks
    match ← get with
    | [] => return []
    | c :: _ =>
      if endsWord c then return []
      let first ← word n
      return first :: (← words n)

/-- Reads what is left of a simple command. -/
def simple : Nat → List (List Char × Word) → List Word → List Redirection → Reading Command
  | 0, _, _, _ => unexpected none
  | n + 1, assignments, found, targets => do
    modify skipBlanks
    let line ← get
    match redirection? line with
    | some (descriptor, direction, rest) =>
      set (skipBlanks rest)
      match ← word n with
      | [] => unexpected none
      | target => simple n assignments found (targets ++ [.mk descriptor direction target])
    | none =>
      match line with
      | [] => done n assignments found targets
      | c :: _ =>
        if endsWord c then done n assignments found targets
        else match found, assignment? line with
          | [], some (name, rest) =>
            set rest
            let value ← word n
            simple n (assignments ++ [(name, value)]) found targets
          | _, _ =>
            let next ← word n
            simple n assignments (found ++ [next]) targets

/-- Ends a simple command, which must have something in it, and which no parenthesis follows. -/
def done : Nat → List (List Char × Word) → List Word → List Redirection → Reading Command
  | _, assignments, found, targets => do
    if assignments.isEmpty && found.isEmpty && targets.isEmpty then unexpected none
    match ← get, found with
    | '(' :: rest, [_] =>
      set rest
      expectChar ')'
      unexpected none
    | '(' :: _, _ => unexpected none
    | _, _ => return .simple assignments found targets

end

/-- The tree of a script, or the complaint about it. -/
def script (line : List Char) : Except String Command :=
  let fuel := 12 * (line.length + 2)
  let whole : Reading Command := do
    let command ← list fuel
    modify skipBlanks
    match ← get with
    | [] => return command
    | _ => unexpected none
  (whole.run line).map (·.1)

end SharedTerminal.Shell.Reader
