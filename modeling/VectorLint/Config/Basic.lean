import VectorLint.Report.Log
import VectorLint.Text.Blank
import VectorLint.Text.Utf8
import VectorLint.Value.Limits

/-!
# Configurations

A configuration says which rules run, in order and each with a value that is the rule's own matter,
and from which level on the log is shown. A value describes a configuration if it is an object with
no other fields than `rules` and `logging`, both of which may be left out. Everything that is wrong
is reported at once: first about the rules, then about the log, then the fields that do not belong
there.
-/

namespace VectorLint

/-- From which level on the log is shown. -/
inductive Config.Level where
  | error
  | warn
  | info
  | debug
  deriving DecidableEq, Repr

/-- A configuration. -/
structure Config where
  rules : List (String × Value) := []
  level : Config.Level := .info

namespace Config

/-- The name of a level. -/
def Level.name : Level → String
  | error => "error"
  | warn => "warn"
  | info => "info"
  | debug => "debug"

/-- The level with a given name. -/
def Level.ofName? (name : String) : Option Level :=
  [error, warn, info, debug].find? fun l ↦ l.name == name

/-- Every level is found by its name. -/
theorem Level.ofName?_name (l : Level) : Level.ofName? l.name = some l := by cases l <;> rfl

/-- The level of the records that are shown. -/
def Level.logLevel : Level → Log.Level
  | error => .error
  | warn => .warning
  | info => .info
  | debug => .debug

/-- What is wrong with a part of a value. -/
inductive Problem where
  | notASection (name : String)
  | notAnObject
  | emptyRuleName
  | unknownLevel
  | extraField
  deriving DecidableEq, Repr

/-- The wording of a problem, and the name of its type. -/
def Problem.wording : Problem → String × String
  | .notASection name =>
    ("Input should be a valid dictionary or instance of " ++ name, "model_type")
  | .notAnObject => ("Input should be a valid dictionary", "dict_type")
  | .emptyRuleName => ("Value error, rule names must not be empty", "value_error")
  | .unknownLevel => ("Input should be 'error', 'warn', 'info' or 'debug'", "enum")
  | .extraField => ("Extra inputs are not permitted", "extra_forbidden")

/-- A fault of a value: the names that lead to the part it is about, the problem, and the part. -/
structure Fault where
  place : List String
  problem : Problem
  part : Value

/-- The characters at the start of a text that fit into so many octets. -/
def fitting (octets : Nat) : List Char → List Char
  | [] => []
  | c :: cs => if c.utf8Size ≤ octets then c :: fitting (octets - c.utf8Size) cs else []

/-- A text, or what is left of it when it takes more than 50 octets: its first 25 and its last 24,
or fewer where they would divide a character. -/
def shortened (s : String) : String :=
  if s.utf8ByteSize ≤ 50 then s
  else
    String.ofList (fitting 25 s.toList) ++ "..."
      ++ String.ofList (fitting 24 s.toList.reverse).reverse

/-- A name on the way to a part. One with a point in it is set off. -/
def shownName (name : String) : String :=
  if name.toList.contains '.' then "\x60" ++ name ++ "\x60" else name

/-- A part as the lines about it show it, also if it cannot be written. -/
def shownPart (v : Value) : String :=
  match v.written .standard .shown with
  | .ok text => text
  | .error _ => "<unprintable " ++ v.kindName ++ " object>"

/-- The lines about a fault, without the one that only points to further information. -/
def Fault.lines (f : Fault) : List String :=
  let (wording, type) := f.problem.wording
  let place := if f.place.isEmpty then [] else [".".intercalate (f.place.map shownName)]
  place ++ ["  " ++ wording ++ " [type=" ++ type ++ ", input_value=" ++ shortened (shownPart f.part)
    ++ ", input_type=" ++ f.part.kindName ++ "]"]

/-- The name of a configuration in messages. -/
def sectionName : String := "SvgLintConfig"

/-- The message about all faults of a value. -/
def message (faults : List Fault) : String :=
  let count :=
    toString faults.length ++ " validation error" ++ (if faults.length = 1 then "" else "s")
    ++ " for " ++ sectionName
  "\n".intercalate (count :: faults.flatMap (·.lines))

/-- What is wrong with the value of the rules. -/
def rulesFaults (v : Value) : List Fault :=
  match v.fields? with
  | none => [⟨["rules"], .notAnObject, v⟩]
  | some fields =>
    if fields.any fun (name, _) ↦ Text.isBlankText name then [⟨["rules"], .emptyRuleName, v⟩]
    else []

/-- The level in the value of the log, or what is wrong with it. -/
def levelOf (v : Value) : Except Fault Level :=
  match v.fields? with
  | none => .error ⟨["logging"], .notASection "LoggingConfig", v⟩
  | some fields =>
    match Fields.get? fields "level" with
    | none => .ok .info
    | some level =>
      match level.text?.bind Level.ofName? with
      | some l => .ok l
      | none => .error ⟨["logging", "level"], .unknownLevel, level⟩

/-- The level of fields that may have a value for the log. -/
def levelIn (fields : List (String × Value)) : Except Fault Level :=
  match Fields.get? fields "logging" with
  | none => .ok .info
  | some v => levelOf v

/-- What is wrong with fields. -/
def faults (fields : List (String × Value)) : List Fault :=
  let rules := match Fields.get? fields "rules" with
    | none => []
    | some v => rulesFaults v
  let level := match levelIn fields with
    | .ok _ => []
    | .error f => [f]
  let extra := fields.filter fun (name, _) ↦ name ≠ "rules" && name ≠ "logging"
  rules ++ level ++ extra.map fun (name, v) ↦ ⟨[name], .extraField, v⟩

/-- The configuration of fields, if nothing is wrong with them. -/
def ofFields (fields : List (String × Value)) : Except (List Fault) Config :=
  match faults fields with
  | [] =>
    .ok {
      rules := ((Fields.get? fields "rules").bind Value.fields?).getD []
      level := (levelIn fields).toOption.getD .info }
  | found => .error found

/-- The configuration that a value describes. -/
def ofValue (v : Value) : Except (List Fault) Config :=
  match v.fields? with
  | none => .error [⟨[], .notASection sectionName, v⟩]
  | some fields => ofFields fields

/-- The failure of a value that describes no configuration. -/
def failure (faults : List Fault) : Failure := ⟨.validation, message faults⟩

/-- The configuration that a value describes; null stands for the one without rules. -/
def coerce (v : Value) : Except Failure Config :=
  match v with
  | .null => .ok {}
  | v => (ofValue v).mapError failure

end Config

end VectorLint
