import VectorLint.Report.Diagnostic
import VectorLint.Report.Log

/-!
# Reports

A report collects the findings of a lint run in the order in which they are made. Once it is closed
it stays closed and keeps what it has; what is reported afterwards is logged and dropped.

Nobody reports without a name: a view of the report says on whose behalf a finding is made and who
logs it. A view holds no findings of its own, so all views of a report show the same ones, and
closing through one view closes all.
-/

namespace VectorLint

/-- The findings of a run so far, whether more are kept, and the log. -/
structure Report where
  diagnostics : Array Diagnostic := #[]
  isClosed : Bool := false
  log : Array Log.Record := #[]

/-- On whose behalf findings are made, and the logger that tells about them. -/
structure View where
  name : Option String
  logger : String
  deriving DecidableEq, Repr

/-- The view of a report that no run has made. -/
def View.bare (name : Option String) : View := ⟨name, "svglint.reporter"⟩

/-- The view of a rule inside another view. -/
def View.scoped (v : View) (name : String) : View := ⟨some name, Log.child v.logger name⟩

namespace Report

/-- Add a record to the log. -/
def note (r : Report) (record : Log.Record) : Report := { r with log := r.log.push record }

/-- Keep a finding, unless the report is closed; either way one record tells what was done. -/
def add (r : Report) (logger : String) (d : Diagnostic) : Report :=
  if r.isClosed then
    r.note (.debug logger ("Ignoring report after lint completed: " ++ d.shown))
  else
    { r.note (.debug logger ("Reported " ++ d.shown)) with
      diagnostics := r.diagnostics.push d }

/-- Make a finding through a view. -/
def report (r : Report) (v : View) (severity : Severity) (message : Value)
    (element : Option Element) : Report :=
  r.add v.logger ⟨severity, message, v.name, element⟩

/-- Report a failure through a view. -/
def exception (r : Report) (v : View) (f : Failure) : Report :=
  r.report v .exception (.text f.message) none

/-- Keep no more findings. -/
def close (r : Report) : Report := { r with isClosed := true }

/-! ## What the operations do to the findings -/

@[simp] theorem diagnostics_note (r : Report) (record : Log.Record) :
    (r.note record).diagnostics = r.diagnostics := rfl

@[simp] theorem isClosed_note (r : Report) (record : Log.Record) :
    (r.note record).isClosed = r.isClosed := rfl

@[simp] theorem diagnostics_close (r : Report) : r.close.diagnostics = r.diagnostics := rfl

@[simp] theorem isClosed_close (r : Report) : r.close.isClosed = true := rfl

@[simp] theorem isClosed_add (r : Report) (logger : String) (d : Diagnostic) :
    (r.add logger d).isClosed = r.isClosed := by
  unfold add; split <;> rfl

theorem diagnostics_add_of_closed (r : Report) (logger : String) (d : Diagnostic)
    (h : r.isClosed = true) : (r.add logger d).diagnostics = r.diagnostics := by
  simp [add, h]

theorem diagnostics_add_of_open (r : Report) (logger : String) (d : Diagnostic)
    (h : r.isClosed = false) : (r.add logger d).diagnostics = r.diagnostics.push d := by
  simp [add, h]

end Report

end VectorLint
