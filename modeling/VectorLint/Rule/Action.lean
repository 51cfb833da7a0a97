import VectorLint.Report.Basic

/-!
# What rules do

A rule looks at nothing but the document and its own configuration. What it does is therefore fixed
before it starts: a list of actions that log, report, and, in rules that take turns with others,
give up the turn or wait. A rule may also fail, which ends it; what it did before stands. Whether
its reports are kept and when its turns come is not for the rule to say.
-/

namespace VectorLint

/-- One thing that a rule does. -/
inductive Action where
  /-- Log a message, as the rule or as the logger that is named. -/
  | note (level : Log.Level) (logger : Option String) (message : String)
  /-- Make a finding. -/
  | report (severity : Severity) (message : Value) (element : Option Element)
  /-- Close the report. -/
  | close
  /-- Set an event. -/
  | set (event : String)
  /-- Give up the turn. -/
  | yield
  /-- Wait for an event, unless it is set. -/
  | wait (event : String)

namespace Action

/-- Log what only matters to who looks for a mistake. -/
def debug (message : String) : Action := .note .debug none message

/-- Report a failure. -/
def exception (f : Failure) : Action := .report .exception (.text f.message) none

/-- What an action does to the report. Turns and events are not the report's matter. -/
def perform (v : View) (r : Report) : Action → Report
  | .note level logger message => r.note ⟨logger.getD v.logger, level, message⟩
  | .report severity message element => r.report v severity message element
  | .close => r.close
  | .set _ => r
  | .yield => r
  | .wait _ => r

end Action

/-- What a rule does on a document: its actions, and the failure that ends it if one does. -/
structure Conduct where
  actions : List Action
  failure : Option Failure := none

namespace Conduct

/-- The conduct that begins with some actions. -/
def after (actions : List Action) (c : Conduct) : Conduct :=
  { c with actions := actions ++ c.actions }

/-- The conduct of a rule that fails at once. -/
def failing (f : Failure) : Conduct := ⟨[], some f⟩

/-- What a rule that nothing else is running beside does to a report. -/
def perform (c : Conduct) (v : View) (r : Report) : Report := c.actions.foldl (Action.perform v) r

end Conduct

end VectorLint
