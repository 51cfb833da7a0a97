import VectorLint.Rule.Action
import VectorLint.Value.Limits

/-!
# The fixed message

The simplest rule reports one message, as an error or as a warning, or nothing at all. It is useful
for trying out how reports are shown. A message of any kind is accepted, but one that is no text has
to be written when it is reported, and the rule fails if it cannot be.
-/

namespace VectorLint

/-- A rule that reports a fixed message, or nothing, and the limits within which it writes. -/
structure Notice where
  severity : Option Severity
  message : Value
  limits : Limits

namespace Notice

/-- The severities that a message may have, with the names of the methods that choose them. -/
def methods : List (String × Severity) := [("error", .error), ("warn", .warning)]

/-- The name of the method that chooses a severity, as messages show it. -/
def shownMethod (severity : Option Severity) : String :=
  match severity with
  | none => Value.null.shown
  | some s => ((methods.find? fun m ↦ m.2 = s).map fun m ↦ Text.quoted m.1).getD ""

/-- The rule that a configuration describes. -/
def ofConfig (limits : Limits) (config : Value) : Except Failure Notice := do
  let some fields := config.fields?
    | throw ⟨.configuration, "identity config must be a mapping, got '" ++ config.kindName ++ "'"⟩
  let message := (Fields.get? fields "message").getD (.text "")
  match (Fields.get? fields "method").getD .null with
  | .null => return ⟨none, message, limits⟩
  | method =>
    match method.text?.bind fun name ↦ methods.lookup name with
    | some severity => return ⟨some severity, message, limits⟩
    | none => method.refused limits .shown fun text ↦
      "identity method must be one of " ++ Value.shownTexts (methods.map (·.1))
        ++ " or null, got " ++ text

/-- What keeps the message from being reported. -/
def obstacle? (n : Notice) : Option Failure := n.severity.bind fun _ ↦ n.message.unspoken? n.limits

/-- What the rule does, whatever the document. -/
def conduct (n : Notice) : Conduct where
  actions :=
    .debug ("Called with method " ++ shownMethod n.severity)
      :: if n.obstacle?.isSome then [] else
        (n.severity.map fun s ↦ Action.report s n.message none).toList
  failure := n.obstacle?

end Notice

end VectorLint
