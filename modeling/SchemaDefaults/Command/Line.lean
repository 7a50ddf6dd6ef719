import SchemaDefaults.Storage.Path

/-! # Command lines

The words of a command line are read from left to right. Options may be written in short
(`-i x`, `-ix`, `-i=x`) and in long (`--input x`, `--input=x`), and short options without a
value may share a hyphen. The first word that ends the reading decides: a call for help or
for the version, or a mistake.
-/

namespace SchemaDefaults.CommandLine

/-- What a program is asked to do. -/
inductive Task where
  | generate (input output : Path) (configuration : Option Path)
  | check (input : Path) (configuration : Option Path)
  | passes
  deriving Repr, DecidableEq

/-- A task, and whether the log is to be verbose. -/
structure Invocation where
  verbose : Bool
  task : Task
  deriving Repr, DecidableEq

/-- Why a command line asks for no task. -/
inductive Ending where
  | help
  | version
  | misuse
  deriving Repr, DecidableEq

inductive OptionName where
  | help
  | version
  | verbose
  | input
  | output
  | configuration
  deriving Repr, DecidableEq

namespace OptionName

def letter : OptionName → Char
  | .help => 'h'
  | .version => 'V'
  | .verbose => 'v'
  | .input => 'i'
  | .output => 'o'
  | .configuration => 'c'

def word : OptionName → String
  | .help => "help"
  | .version => "version"
  | .verbose => "verbose"
  | .input => "input"
  | .output => "output"
  | .configuration => "config"

def takesValue : OptionName → Bool
  | .input | .output | .configuration => true
  | _ => false

end OptionName

/-- An option as it stands in a word, with the value attached to it; `none` is an option that
    cannot stand there. -/
abbrev Mention := Option (OptionName × Option String)

/-- The value that follows a letter. -/
def attached : List Char → Option String
  | [] => none
  | '=' :: value => some (String.ofList value)
  | value => some (String.ofList value)

/-- The options that letters stand for. What follows an option with a value is its value. -/
def mentionsOfLetters (admitted : List OptionName) : List Char → List Mention
  | [] => []
  | letter :: rest =>
      match admitted.find? (·.letter = letter) with
      | none => [none]
      | some name =>
          if name.takesValue then [some (name, attached rest)]
          else some (name, none) :: mentionsOfLetters admitted rest

/-- The option that a long form stands for. -/
def mentionOfLong (admitted : List OptionName) (form : List Char) : Mention := do
  let word := form.takeWhile (· ≠ '=')
  let value := attached (form.drop word.length)
  let name ← admitted.find? (·.word = String.ofList word)
  if value.isSome ∧ ¬name.takesValue then none else some (name, value)

/-- What a word says. -/
inductive Word where
  /-- It is a value or the name of a command. -/
  | plain
  /-- It says that no options follow. -/
  | separator
  | mentions (options : List Mention)
  deriving Repr, DecidableEq

/-- What a word says where some options are admitted. -/
def Word.ofString (admitted : List OptionName) (text : String) : Word :=
  match text.toList with
  | ['-', '-'] => .separator
  | '-' :: '-' :: form => .mentions [mentionOfLong admitted form]
  | ['-'] => .plain
  | '-' :: letters => .mentions (mentionsOfLetters admitted letters)
  | _ => .plain

/-- The options read so far, with their values. -/
abbrev Given := List (OptionName × String)

namespace Given

def has (given : Given) (name : OptionName) : Bool := given.any (·.1 = name)

/-- The path given as the value of an option. -/
def path? (given : Given) (name : OptionName) : Option Path := (given.lookup name).map Path.mk

/-- Takes one option. No option is given twice, and no value is empty. -/
def take (given : Given) (name : OptionName) (value : String) : Except Ending Given :=
  match name with
  | .help => .error .help
  | .version => .error .version
  | name =>
      if given.has name ∨ (name.takesValue ∧ value.isEmpty) then .error .misuse
      else .ok ((name, value) :: given)

/-- Takes the options of one word. The last may be left waiting for its value. -/
def takeMentions (given : Given) : List Mention → Except Ending (Given × Option OptionName)
  | [] => .ok (given, none)
  | none :: _ => .error .misuse
  | some (name, value) :: rest =>
      if name.takesValue ∧ value.isNone then .ok (given, some name)
      else do takeMentions (← given.take name (value.getD "")) rest

end Given

/-- Reads options up to the first word that is none, with an option that may be waiting for its
    value. -/
def readOptions (admitted : List OptionName) (given : Given) :
    Option OptionName → List String → Except Ending (Given × List String)
  | none, [] => .ok (given, [])
  | some _, [] => .error .misuse
  | waiting, word :: rest =>
      match Word.ofString admitted word, waiting with
      | .plain, some name => do readOptions admitted (← given.take name word) none rest
      | .plain, none => .ok (given, word :: rest)
      | .separator, none => if rest.isEmpty then .ok (given, []) else .error .misuse
      | .mentions options, none => do
          let (given, waiting) ← given.takeMentions options
          readOptions admitted given waiting rest
      | _, some _ => .error .misuse

/-- The options that a command has of its own, and the task that it makes of the options given,
    unless one is missing. -/
def command? : String → Option (List OptionName × (Given → Option Task))
  | "generate" => some ([.input, .output, .configuration], fun given => do
      let input ← given.path? .input
      let output ← given.path? .output
      return .generate input output (given.path? .configuration))
  | "check" => some ([.input, .configuration], fun given => do
      let input ← given.path? .input
      return .check input (given.path? .configuration))
  | "passes" => some ([], fun _ => some .passes)
  | _ => none

/-- Whether help can be had on something. -/
def hasHelp (topic : List String) : Bool :=
  match topic with
  | [] => true
  | [name] => name = "help" ∨ (command? name).isSome
  | _ => false

def parse (words : List String) : Except Ending Invocation := do
  match ← readOptions [.help, .version, .verbose] [] none words with
  | (_, []) => .error .misuse
  | (_, "help" :: topic) => .error (if hasHelp topic then .help else .misuse)
  -- The options of the command are read anew, so those above it may be given once more.
  | (above, name :: rest) =>
      match command? name with
      | none => .error .misuse
      | some (options, task?) =>
          match ← readOptions ([.help, .verbose] ++ options) [] none rest with
          | (given, []) =>
              match task? given with
              | some task => .ok ⟨above.has .verbose || given.has .verbose, task⟩
              | none => .error .misuse
          | (_, _ :: _) => .error .misuse

/-- The text that explains the command line. -/
def usage : String :=
  "Usage: protogen [-v] generate -i FILE -o DIRECTORY [-c FILE]\n" ++
  "       protogen [-v] check -i FILE [-c FILE]\n" ++
  "       protogen [-v] passes\n" ++
  "\n" ++
  "Generates Go source from protobuf schema descriptors.\n" ++
  "\n" ++
  "  -i, --input FILE         descriptors as JSON\n" ++
  "  -o, --output DIRECTORY   where the generated files go, - for the standard output\n" ++
  "  -c, --config FILE        configuration, protogen.toml if there is one\n" ++
  "  -v, --verbose            log at debug level\n" ++
  "  -h, --help               print this text\n" ++
  "  -V, --version            print the version\n"

end SchemaDefaults.CommandLine
