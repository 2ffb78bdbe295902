import SharedTerminal.Text.Numeral

/-!
# Command lines

The common rules by which arguments are told apart.  An option has a long name after two hyphens,
and maybe a letter after one.  It can take a value, which follows after an equals sign or as the
next argument; after a letter the value can also follow at once.  Letters of options without a
value can be joined.  No option is given twice.  After two hyphens alone, nothing is an option.

Options that ask for help or for the version are answered on the spot.
-/

namespace SharedTerminal.CommandLine

/-- What an option is for. -/
inductive Kind where
  /-- It is given or not. -/
  | flag
  /-- It has a value that must pass a test. -/
  | value (isValid : String → Bool)
  /-- It asks for help or for the version. -/
  | question

/-- An option. -/
structure Opt where
  /-- The long name. -/
  long : String
  /-- The letter, if there is one. -/
  short : Option Char
  /-- What the option is for. -/
  kind : Kind

/-- Why no command is run. -/
inductive Stop where
  /-- The arguments make no sense. -/
  | refused
  /-- Help or the version was asked for; the option that asks for it has a name. -/
  | answered (question : String)
deriving DecidableEq, Repr

/-- The options that were given, by their long names, with their values. -/
abbrev Given : Type := List (String × String)

/-- Whether an option was given. -/
def has (given : Given) (long : String) : Bool := (given.lookup long).isSome

/-- Takes note of an option. -/
def give (given : Given) (long value : String) : Except Stop Given :=
  if has given long then .error .refused else .ok (given ++ [(long, value)])

/-- Whether an argument can be the value of the option before it. -/
def isValue (arg : String) : Bool := arg == "-" || arg.toList.head? != some '-'

/-- What came of the arguments so far: the options, and whether the next argument is the value of
one. -/
structure Progress where
  /-- The options that were given. -/
  given : Given
  /-- The option whose value comes next. -/
  pending : Option Opt

/-- Takes note of an option with a value. -/
def giveValue (given : Given) (o : Opt) (value : List Char) : Except Stop Progress :=
  match o.kind with
  | .value isValid =>
    let text := String.ofList value
    if isValid text then do return ⟨← give given o.long text, none⟩ else throw .refused
  | _ => .error .refused

/-- Reads an option by its long name, after the hyphens. -/
def long (options : List Opt) (given : Given) (arg : List Char) : Except Stop Progress :=
  let name := arg.takeWhile (· != '=')
  match options.find? fun o => o.long.toList == name with
  | none => .error .refused
  | some o =>
    match arg.drop name.length, o.kind with
    | _ :: value, _ => giveValue given o value
    | [], .flag => do return ⟨← give given o.long "", none⟩
    | [], .value _ => .ok ⟨given, some o⟩
    | [], .question => .error (.answered o.long)

/-- Reads the letters of options after a hyphen. -/
def letters (options : List Opt) (given : Given) : List Char → Except Stop Progress
  | [] => .ok ⟨given, none⟩
  | letter :: rest =>
    match options.find? fun o => o.short == some letter with
    | none => .error .refused
    | some o =>
      match o.kind, rest with
      | .flag, _ => do letters options (← give given o.long "") rest
      | .question, _ => .error (.answered o.long)
      | .value _, [] => .ok ⟨given, some o⟩
      | .value _, '=' :: value => giveValue given o value
      | .value _, value => giveValue given o value

/-- Reads arguments as long as they are options.  What is left begins with the first argument that
is none; the flag tells whether two hyphens came before it. -/
def options (known : List Opt) : Progress → List String →
    Except Stop (Given × List String × Bool)
  | ⟨given, none⟩, [] => .ok (given, [], false)
  | ⟨_, some _⟩, [] => .error .refused
  | ⟨given, some o⟩, arg :: rest =>
    if isValue arg then do options known (← giveValue given o arg.toList) rest
    else .error .refused
  | ⟨given, none⟩, arg :: rest =>
    match arg.toList with
    | ['-', '-'] => .ok (given, rest, true)
    | '-' :: '-' :: name => do options known (← long known given name) rest
    | '-' :: c :: more => do options known (← letters known given (c :: more)) rest
    | _ => .ok (given, arg :: rest, false)

/-- Reads the options at the front of the arguments. -/
def read (known : List Opt) (args : List String) : Except Stop (Given × List String × Bool) :=
  options known ⟨[], none⟩ args

/-- The option that asks for help. -/
def help : Opt := ⟨"help", some 'h', .question⟩

/-- The option that asks for the version. -/
def version : Opt := ⟨"version", some 'V', .question⟩

/-- An option without a value. -/
def flag (long : String) (short : Option Char) : Opt := ⟨long, short, .flag⟩

/-- An option with any text as its value. -/
def text (long : String) (short : Option Char) : Opt := ⟨long, short, .value fun _ => true⟩

/-- An option with the path of a file as its value. -/
def path (long : String) (short : Option Char) : Opt :=
  ⟨long, short, .value fun v => !v.isEmpty⟩

/-- An option with a number up to a bound as its value. -/
def number (bound : Nat) (long : String) (short : Option Char) : Opt :=
  ⟨long, short, .value fun v => (Numeral.parseUpTo? bound v.toList).isSome⟩

/-- The number that was given for an option. -/
def numberOf? (bound : Nat) (given : Given) (long : String) : Option Nat :=
  (given.lookup long).bind fun v => Numeral.parseUpTo? bound v.toList

end SharedTerminal.CommandLine
