import VectorLint.Report.Basic

/-!
# Reporters

A reporter is what a rule holds in its hands: a view, and the report that is behind it. From a
reporter another one can be made for a part of its work, which has a view of its own and the same
report behind it. So the reporters that come of one form a tree, of any depth, over a single report.
Which report is behind a reporter is a matter of its number; nothing is copied.
-/

namespace VectorLint

/-- A view, and the number of the report behind it. -/
structure Reporter where
  view : View
  report : Nat
  deriving DecidableEq, Repr

/-- The reporter for a rule inside another reporter. -/
def Reporter.scoped (r : Reporter) (name : String) : Reporter :=
  { r with view := r.view.scoped name }

/-- What is done with a reporter. -/
inductive Reporter.Deed where
  /-- Make a reporter for a rule inside it. -/
  | scope (name : String)
  | close
  | report (severity : Severity) (message : Value) (element : Option Element)
  | exception (f : Failure)

/-- Something that is done with the reporter of a number. -/
structure Reporter.Operation where
  reporter : Nat
  deed : Reporter.Deed

/-- The reports that there are, and the reporters in the order in which they were made. -/
structure Reporters where
  reports : List Report
  made : List Reporter

namespace Reporters

open Reporter (Deed Operation)

/-- A single reporter, with a new report behind it. -/
def ofView (v : View) : Reporters := ⟨[{}], [⟨v, 0⟩]⟩

/-- The report behind a reporter. -/
def reportOf (s : Reporters) (r : Reporter) : Report := s.reports[r.report]?.getD {}

/-- Change the report behind a reporter. -/
def change (s : Reporters) (r : Reporter) (f : Report → Report) : Reporters :=
  { s with reports := s.reports.modify r.report f }

/-- Do something with a reporter. -/
def act (s : Reporters) (r : Reporter) : Deed → Reporters
  | .scope name => { s with made := s.made ++ [r.scoped name] }
  | .close => s.change r Report.close
  | .report severity message element =>
    s.change r fun report ↦ report.report r.view severity message element
  | .exception f => s.change r fun report ↦ report.exception r.view f

/-- An operation. With a reporter that was not made nothing can be done. -/
def perform (s : Reporters) (op : Operation) : Reporters :=
  match s.made[op.reporter]? with
  | some r => s.act r op.deed
  | none => s

/-- Operations, one after the other. -/
def performAll (s : Reporters) (ops : List Operation) : Reporters := ops.foldl perform s

end Reporters

end VectorLint
