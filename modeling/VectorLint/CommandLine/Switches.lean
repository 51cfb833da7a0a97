/-!
# Switches among arguments

Arguments of a command are switches and words. A switch begins with a hyphen: with two, it has a
long name, and a value may follow behind an equals sign; with one, it is a row of short names, the
last of which takes the rest of the argument as its value if it needs one. A value that is not
attached is the next argument, whatever that looks like. Two hyphens alone end the switches, and one
alone is a word.
-/

namespace VectorLint.CommandLine

/-- A switch: what it means, its long name, its short name if it has one, and whether it needs a
value. -/
structure Switch (α : Type) where
  meaning : α
  long : String
  short : Option Char := none
  takesValue : Bool := false

/-- Why arguments are not understood. -/
inductive Misuse where
  | unknownSwitch (name : String)
  | missingValue
  | unwantedValue (name : String)
  | missingWords
  | unknownCommand (name : String)
  | impossiblePath
  deriving DecidableEq, Repr

/-- The wording of a misuse. -/
def Misuse.wording : Misuse → String
  | .unknownSwitch name => "No such option: " ++ name
  | .missingValue => "An option requires an argument."
  | .unwantedValue name => "Option '" ++ name ++ "' does not take a value."
  | .missingWords => "Missing argument or command."
  | .unknownCommand name => "No such command '" ++ name ++ "'."
  | .impossiblePath => "Path contains a null character."

/-- Switches that were given, in order and with their values. -/
abbrev Given (α : Type) := List (α × Option String)

namespace Switch

variable {α : Type}

/-- The switches of a row of short names, and a switch at the end whose value has yet to come. -/
def ofShortNames (switches : List (Switch α)) :
    List Char → Except Misuse (Given α × Option α)
  | [] => .ok ([], none)
  | c :: cs =>
    match switches.find? (·.short = some c) with
    | none => .error (.unknownSwitch (String.ofList ['-', c]))
    | some s =>
      if s.takesValue then
        if cs.isEmpty then .ok ([], some s.meaning)
        else .ok ([(s.meaning, some (String.ofList cs))], none)
      else (ofShortNames switches cs).map fun (given, open?) ↦ ((s.meaning, none) :: given, open?)

/-- The switches of an argument that begins with a hyphen, and a switch whose value has yet to
come. -/
def ofArgument (switches : List (Switch α)) (arg : String) :
    Except Misuse (Given α × Option α) :=
  let name := String.ofList (arg.toList.takeWhile (· ≠ '='))
  let attached := match arg.toList.dropWhile (· ≠ '=') with
    | _ :: value => some (String.ofList value)
    | [] => none
  match switches.find? (·.long = name), attached, arg.toList with
  | some s, some value, _ =>
    if s.takesValue then .ok ([(s.meaning, some value)], none) else .error (.unwantedValue name)
  | some s, none, _ =>
    if s.takesValue then .ok ([], some s.meaning) else .ok ([(s.meaning, none)], none)
  | none, _, '-' :: '-' :: _ => .error (.unknownSwitch name)
  | none, _, _ => ofShortNames switches (arg.toList.drop 1)

/-- Whether an argument is one of switches. -/
def isSwitch (arg : String) : Bool := arg.toList.head? = some '-' && arg ≠ "-"

/-- The switches and the words of arguments. Unless they may be mixed, the first word ends the
switches. -/
def parse (switches : List (Switch α)) (mixed : Bool) :
    List String → Except Misuse (Given α × List String)
  | [] => .ok ([], [])
  | arg :: rest =>
    if arg = "--" then .ok ([], rest)
    else if isSwitch arg then
      match ofArgument switches arg, rest with
      | .error misuse, _ => .error misuse
      | .ok (given, none), rest =>
        (parse switches mixed rest).map fun (more, words) ↦ (given ++ more, words)
      | .ok (_, some _), [] => .error .missingValue
      | .ok (given, some meaning), value :: rest =>
        (parse switches mixed rest).map fun (more, words) ↦
          (given ++ (meaning, some value) :: more, words)
    else if mixed then (parse switches mixed rest).map fun (given, words) ↦ (given, arg :: words)
    else .ok ([], arg :: rest)

end Switch

end VectorLint.CommandLine
