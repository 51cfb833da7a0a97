import VectorLint.Document.Query
import VectorLint.Rule.Action

/-!
# What scripts do

The steps of a script become actions one by one. A step that looks for elements does so before it
reports, and the first step that fails ends the script.
-/

namespace VectorLint.Script

/-- The element that a report is about: the first one that the selector matches, if one is given. -/
def subject (d : Document) : Option String → Except Failure (Option Element)
  | none => .ok none
  | some selector => do
    match (← d.find selector).head? with
    | some e => return some e
    | none => throw ⟨.index, "list index out of range"⟩

/-- What a step does on a document, or the failure that it ends the script with. -/
def Step.actions (suspends : Bool) (d : Document) : Step → Except Failure (List Action)
  | .warn message selector => do return [.report .warning (.text message) (← subject d selector)]
  | .error message selector => do return [.report .error (.text message) (← subject d selector)]
  | .exception f => .ok [.exception f]
  | .raise f => .error f
  | .find selector => do
    let found ← d.find selector
    return [.report .warning (.text (toString found.length ++ " for " ++ selector)) none]
  | .close => .ok [.close]
  | .set event => .ok [.set event]
  | .yield => .ok (if suspends then [.yield] else [])
  | .wait event => .ok (if suspends then [.wait event] else [])

/-- What steps do on a document. -/
def conductOf (suspends : Bool) (d : Document) : List Step → Conduct
  | [] => ⟨[], none⟩
  | step :: steps =>
    match step.actions suspends d with
    | .ok actions => (conductOf suspends d steps).after actions
    | .error f => .failing f

/-- What a script does on a document. -/
def conduct (s : Script) (d : Document) : Conduct :=
  (conductOf s.suspends d s.steps).after [.debug ("Calling " ++ s.name)]

end VectorLint.Script
