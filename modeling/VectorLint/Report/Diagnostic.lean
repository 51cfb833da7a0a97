import VectorLint.Document.Basic
import VectorLint.Value.Shown

/-!
# Diagnostics

A diagnostic is one finding: how severe it is, what it says, and on behalf of which rule and about
which element it was made, if there are such. What it says is nearly always a text; a rule that is
configured with another value reports that value.
-/

namespace VectorLint

/-- How severe a finding is. An exception is a failure of a rule itself. -/
inductive Severity where
  | warning
  | error
  | exception
  deriving DecidableEq, Repr

namespace Severity

/-- The name of a severity. -/
def name : Severity → String
  | .warning => "warning"
  | .error => "error"
  | .exception => "exception"

/-- The name of a severity in messages. -/
def label : Severity → String
  | .warning => "WARNING"
  | .error => "ERROR"
  | .exception => "EXCEPTION"

/-- The severity of a name. -/
def ofName (name : String) : Except Failure Severity :=
  match [warning, error, exception].find? fun s ↦ s.name == name with
  | some s => .ok s
  | none => .error ⟨.value, Text.quoted name ++ " is not a valid Severity"⟩

end Severity

/-- A finding. -/
structure Diagnostic where
  severity : Severity
  message : Value
  rule : Option String
  element : Option Element

namespace Diagnostic

/-- The path of the element that a finding is about. -/
def location (d : Diagnostic) : Option String := d.element.map (·.path)

/-- A finding on one line of text. An empty name of a rule is left out like an absent one. -/
def shown (d : Diagnostic) : String :=
  let rule := match d.rule with
    | none => ""
    | some name => if name = "" then "" else " " ++ name ++ ":"
  let location := match d.location with
    | none => ""
    | some path => " at " ++ path
  "[" ++ d.severity.label ++ "]" ++ rule ++ " " ++ d.message.plain ++ location

/-- A text, or null in its absence. -/
def optionalText : Option String → Value
  | some s => .text s
  | none => .null

/-- A finding as a value, the form in which it is written as JSON. -/
def value (d : Diagnostic) : Value :=
  .object [("severity", .text d.severity.name), ("rule", optionalText d.rule),
    ("message", d.message), ("element", optionalText (d.element.map (·.name))),
    ("location", optionalText d.location)]

end Diagnostic

end VectorLint
