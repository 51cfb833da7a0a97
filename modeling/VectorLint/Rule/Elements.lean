import VectorLint.Document.Query
import VectorLint.Rule.Finding
import VectorLint.Value.Limits

/-!
# The element rule

The rule constrains how many elements selectors match. Each clause gives a selector a requirement:
true asks for at least one match, false forbids any, a whole number asks for exactly so many, and
two numbers for a count between them, the ends included. A clause that is met allows all its
matches; what the others disallow stands unless some clause allows it.

A clause without a requirement that can be read, or with a selector that cannot, is reported on its
own and does not keep the others from being checked. So is a clause whose complaint cannot be
written, since it names a number of too many digits. But a value that is no requirement and cannot
be written either ends the configuration of the rule.
-/

namespace VectorLint

namespace ElementRule

/-- What is asked of the matches of one selector. -/
inductive Requirement where
  | required
  | forbidden
  | exactly (count : Int)
  | between (minimum maximum : Value)

/-- The logger of the rule as such. -/
def logger : String := "svglint.rules.elm"

/-- The requirement that a value stands for. -/
def Requirement.ofValue (limits : Limits) (selector : String) (v : Value) :
    Except Failure Requirement :=
  let unknown : Except Failure Requirement := v.refused limits .json fun text ↦
    "Unknown config type '" ++ v.kindName ++ "' for '" ++ selector ++ "' (" ++ text ++ ")"
  match v with
  | .bool true => .ok .required
  | .bool false => .ok .forbidden
  | .int n => .ok (.exactly n)
  | v =>
    match v.items? with
    | some [a, b] => if a.isNumber && b.isNumber then .ok (.between a b) else unknown
    | _ => unknown

/-- What is allowed and disallowed when a requirement is made of elements. -/
def Requirement.judge (limits : Limits) (selector : String) (matched : List Element) :
    Requirement → Except Failure Outcome
  | .required =>
    .ok (if matched.isEmpty then ⟨[], [⟨none, "Expected '" ++ selector ++ "', none found"⟩]⟩
      else ⟨all "", []⟩)
  | .forbidden => .ok ⟨[], all "Element disallowed"⟩
  | .exactly n =>
    if matched.length = n then .ok ⟨all "", []⟩
    else do
      let message := found ++ "expected " ++ (← (Value.int n).spoken limits)
      return if matched.isEmpty then ⟨[], [⟨none, message⟩]⟩ else ⟨[], all message⟩
  | .between minimum maximum =>
    if minimum.leInt matched.length && maximum.geInt matched.length then .ok ⟨all "", []⟩
    else do
      let message := found ++ "expected between " ++ (← minimum.spoken limits) ++ " and "
        ++ (← maximum.spoken limits)
      return ⟨[], [⟨none, message⟩]⟩
where
  /-- The same about each element. -/
  all (message : String) : List Finding := matched.map fun e ↦ ⟨some e, message⟩
  /-- How many elements there are. -/
  found : String := "Found " ++ toString matched.length ++ " elements for '" ++ selector ++ "', "

/-- What a clause says about a document. -/
def Requirement.outcome (limits : Limits) (selector : String) (q : Requirement) (d : Document) :
    Except Failure Outcome := do
  q.judge limits selector (← d.find selector)

end ElementRule

/-- An element rule: selectors in order, each with its requirement or the failure to read it, and
the limits within which the rule writes. -/
structure ElementRule where
  clauses : List (String × Except Failure ElementRule.Requirement)
  limits : Limits

namespace ElementRule

/-- The rule that a configuration describes. -/
def ofConfig (limits : Limits) (config : Value) : Except Failure ElementRule :=
  match config.fields? with
  | none => .error ⟨.configuration, "elm config must be a mapping, got '" ++ config.kindName ++ "'"⟩
  | some fields => do
    let clauses ← fields.mapM fun (selector, v) ↦
      (Failure.kept (Requirement.ofValue limits selector v)).map fun q ↦ (selector, q)
    return { clauses, limits }

/-- What one clause does at once, and its outcome if it has one. -/
def clause (limits : Limits) (d : Document) (selector : String) :
    Except Failure Requirement → List Action × Option Outcome
  | .error f => ([.exception f], none)
  | .ok q =>
    match q.outcome limits selector d with
    | .ok o => ([o.note logger selector], some o)
    | .error f =>
      ([.debug ("Clause '" ++ selector ++ "' failed: " ++ f.shown), .exception f], none)

/-- What the rule does on a document. -/
def conduct (r : ElementRule) (d : Document) : Conduct where
  actions :=
    let clauses := r.clauses.map fun (selector, q) ↦ clause r.limits d selector q
    .debug ("Called with " ++ toString r.clauses.length ++ " clauses")
      :: clauses.flatMap (·.1) ++ Outcome.reports (clauses.filterMap (·.2))

end ElementRule

end VectorLint
