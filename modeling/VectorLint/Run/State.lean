import VectorLint.Report.Diagnostic

/-!
# States of a run

A run is pending until all of its rules have finished, and then has the state that its findings call
for: an error outweighs a warning, a warning outweighs nothing, and a rule that failed counts as an
error.
-/

namespace VectorLint.Run

/-- The state of a run. -/
inductive State where
  | pending
  | success
  | warning
  | error
  deriving DecidableEq, Repr

namespace State

/-- The name of a state. -/
def name : State → String
  | pending => "pending"
  | success => "success"
  | warning => "warning"
  | error => "error"

/-- The name of a state in a table. -/
def label : State → String
  | pending => "PENDING"
  | success => "SUCCESS"
  | warning => "WARNING"
  | error => "ERROR"

/-- The state that findings of some severities call for. -/
def ofSeverities (severities : List Severity) : State :=
  if severities.contains .error || severities.contains .exception then error
  else if severities.contains .warning then warning
  else success

/-- The exit code of a run that ended in a state: one for an error, zero for anything else. -/
def exitCode : State → Nat
  | error => 1
  | _ => 0

/-- Findings never leave a run pending. -/
theorem ofSeverities_ne_pending (severities : List Severity) :
    ofSeverities severities ≠ pending := by
  unfold ofSeverities
  split
  · exact State.noConfusion
  · split <;> exact State.noConfusion

end State

end VectorLint.Run
