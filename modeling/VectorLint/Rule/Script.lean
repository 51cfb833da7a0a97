import VectorLint.Report.Failure

/-!
# Scripted rules

A custom rule is given as a program: a list of steps that report, query, fail, and let other
rules run in between. Reports and failures are ordinary; the last three steps are about the order
in which the rules of one run take turns. A step that waits for an event gives up the turn until
some rule has set the event, and goes on at once if it is already set. Events are only ever set.
-/

namespace VectorLint

/-- One step of a scripted rule. -/
inductive Script.Step where
  /-- Report a warning, on the first element that a selector matches if one is given. -/
  | warn (message : String) (selector : Option String)
  /-- Report an error, on the first element that a selector matches if one is given. -/
  | error (message : String) (selector : Option String)
  /-- Report a failure and go on. -/
  | exception (failure : Failure)
  /-- Fail. -/
  | raise (failure : Failure)
  /-- Report how many elements a selector matches. -/
  | find (selector : String)
  /-- Close the report. -/
  | close
  /-- Set an event. -/
  | set (event : String)
  /-- Give up the turn. -/
  | yield
  /-- Wait for an event. -/
  | wait (event : String)
  deriving DecidableEq, Repr

/-- A custom rule. Only a rule that `suspends` may yield or wait. -/
structure Script where
  name : String
  suspends : Bool
  steps : List Script.Step
  deriving DecidableEq, Repr

end VectorLint
