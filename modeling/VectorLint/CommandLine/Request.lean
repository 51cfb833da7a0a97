import VectorLint.CommandLine.Switches
import VectorLint.Files.Path

/-!
# What the command line asks for

The program has one command, which lints files. Before the command stands nothing but a question for
the version or for help. A question for help comes before anything else that is right, and what the
program does not understand comes before all. No path holds the character of code zero.
-/

namespace VectorLint.CommandLine

/-- What to lint, and how to go about it. -/
structure LintRequest where
  paths : List FilePath
  config : Option FilePath := none
  format : String := "table"
  debug : Bool := false
  deriving DecidableEq, Repr

/-- What the command line asks for. -/
inductive Request where
  | help
  | version
  | lint (r : LintRequest)
  | misuse (m : Misuse)
  deriving DecidableEq, Repr

namespace Request

/-- What the switches before the command mean. -/
inductive Question where
  | help
  | version
  deriving DecidableEq, Repr

/-- The switches before the command. -/
def questions : List (Switch Question) :=
  [⟨.help, "--help", none, false⟩, ⟨.version, "--version", some 'v', false⟩]

/-- What the switches of the command mean. -/
inductive Setting where
  | help
  | config
  | format
  | debug
  deriving DecidableEq, Repr

/-- The switches of the command. -/
def settings : List (Switch Setting) :=
  [⟨.help, "--help", none, false⟩, ⟨.config, "--config", some 'c', true⟩,
    ⟨.format, "--format", some 'f', true⟩, ⟨.debug, "--debug", some 'd', false⟩]

/-- The name of the command. -/
def lintCommand : String := "lint"

/-- The value of a switch; of several the last one counts. -/
def lastValue (s : Setting) (given : Given Setting) : Option String :=
  (given.reverse.find? (·.1 = s)).bind (·.2)

/-- What the arguments behind the command ask for. -/
def ofLintArguments (args : List String) : Request :=
  match Switch.parse settings true args with
  | .error m => misuse m
  | .ok (given, words) =>
    let config := lastValue .config given
    if given.any (·.1 = .help) then help
    else if words.isEmpty then misuse .missingWords
    else if (config.toList ++ words).any (·.toList.contains '\x00') then misuse .impossiblePath
    else
      lint {
        paths := words.map .ofString
        config := config.map .ofString
        format := (lastValue .format given).getD "table"
        debug := given.any (·.1 = .debug) }

/-- The answer that switches before the command ask for. -/
def ofQuestions? (given : Given Question) : Option Request :=
  if given.any (·.1 = .help) then some help
  else if given.any (·.1 = .version) then some version
  else none

/-- What words ask for that do not begin with a command. They may still be switches, if two hyphens
stand before them. -/
def ofStrayWords (words : List String) (command : String) : Request :=
  match Switch.parse questions false words with
  | .error m => misuse m
  | .ok (given, _) => (ofQuestions? given).getD (misuse (.unknownCommand command))

/-- What arguments ask for. -/
def ofArguments (args : List String) : Request :=
  match Switch.parse questions false args with
  | .error m => misuse m
  | .ok (given, words) =>
    match ofQuestions? given, words with
    | some request, _ => request
    | none, [] => misuse .missingWords
    | none, command :: rest =>
      if command = lintCommand then ofLintArguments rest else ofStrayWords words command

end Request

end VectorLint.CommandLine
