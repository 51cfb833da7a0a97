import VectorLint.Run.State
import VectorLint.Run.Turns

/-!
# Lint runs

A run lints one document with one list of rule instances. It can be started once. When all rules
have finished, its state is derived from its findings, its report is closed, those who wait for it
are given the state, and the callbacks that were registered are called in order, up to one that
fails. From then on nothing about the run changes, and a callback that is registered is called at
once.

Rules may wait for events that nobody sets. Such a run stays pending.
-/

namespace VectorLint

/-- What is called when a run is done: it tells its label, registers other callbacks one after the
other, and may fail in the end. -/
structure Run.Callback where
  label : String
  next : List Run.Callback
  failure : Option Failure
  deriving Repr

namespace Run.Callback

/-- A callback that does nothing else than tell its label. -/
def returns (label : String) : Run.Callback := ⟨label, [], none⟩

/-- A callback that fails. -/
def fails (label : String) (f : Failure) : Run.Callback := ⟨label, [], some f⟩

/-- A callback that registers another one. -/
def registers (label : String) (next : Run.Callback) : Run.Callback := ⟨label, [next], none⟩

end Run.Callback

/-- A lint run: its document and its rules, how far it has come, whether its end was announced, the
callbacks that are still to be called and those that were called, each with the state that it saw,
and how many wait for the announcement and what those who waited were given. -/
structure Run where
  document : Document
  instances : List Rule.Instance
  logger : String
  turns : Run.Turns := {}
  state : Run.State := .pending
  isStarted : Bool := false
  isAnnounced : Bool := false
  callbacks : List Run.Callback := []
  calls : List (String × Run.State) := []
  waiters : Nat := 0
  answers : List Run.State := []

namespace Run

/-- The logger of runs that are given no other. -/
def defaultLogger : String := "svglint.linting"

/-- The run of a document with some instances, not yet started. -/
def ofInstances (d : Document) (instances : List Rule.Instance)
    (logger : String := defaultLogger) : Run :=
  { document := d, instances, logger }

/-- The run of a document with instances of configured rules, not yet started. The configurations
that were not accepted are logged. -/
def ofBuilt (d : Document) (instances : List Rule.Instance)
    (logger : String := defaultLogger) : Run :=
  { ofInstances d instances logger with
    turns := { report := (instances.filterMap (·.rejection?)).foldl Report.note {} } }

/-- The run of a document with configured rules, not yet started. -/
def create (d : Document) (rules : List (String × Value)) (logger : String := defaultLogger) :
    Except Failure Run := do
  return ofBuilt d (← Rule.Instance.ofConfigs .standard rules) logger

/-- The report of a run. -/
def report (r : Run) : Report := r.turns.report

/-- The findings of a run, in the order in which they were made. -/
def diagnostics (r : Run) : List Diagnostic := r.report.diagnostics.toList

/-- The findings of one severity. -/
def diagnosticsOf (r : Run) (severity : Severity) : List Diagnostic :=
  r.diagnostics.filter (·.severity = severity)

/-- Whether a run is done. -/
def isDone (r : Run) : Bool := r.state ≠ .pending

/-- The exit code of a run. -/
def exitCode (r : Run) : Nat := r.state.exitCode

/-- The name of a run in messages. -/
def shownName (r : Run) : String := Document.shownName r.document.name

/-- The view of the report that belongs to the run itself. -/
def view (r : Run) : View := ⟨r.document.name, r.logger⟩

/-- A run with another report. -/
def withReport (r : Run) (report : Report) : Run := { r with turns := { r.turns with report } }

/-- Add to the log of a run. -/
def note (r : Run) (message : String) : Run :=
  r.withReport (r.report.note (.debug r.logger message))

/-- Make a finding on behalf of a rule, at any time. -/
def reportAs (r : Run) (rule : String) (severity : Severity) (message : Value) : Run :=
  r.withReport (r.report.report (r.view.scoped rule) severity message none)

/-! ## Callbacks and waiting -/

/-- Keep a callback for the end of the run. -/
def register (r : Run) (c : Callback) : Run := { r with callbacks := r.callbacks ++ [c] }

mutual

/-- Call a callback. What it registers fails it if that is called at once and fails. -/
def call (r : Run) : Callback → Run × Option Failure
  | ⟨label, next, failure⟩ =>
    match { r with calls := r.calls ++ [(label, r.state)] }.registerAll next with
    | (r, none) => (r, failure)
    | (r, some f) => (r, some f)

/-- Have callbacks called when the run is done, or at once if it is, up to one that fails. -/
def registerAll (r : Run) : List Callback → Run × Option Failure
  | [] => (r, none)
  | c :: callbacks =>
    match if r.isDone then r.call c else (r.register c, none) with
    | (r, none) => r.registerAll callbacks
    | (r, some f) => (r, some f)

end

/-- Have a callback called when the run is done, or at once if it is. -/
def onDone (r : Run) (c : Callback) : Run × Option Failure :=
  if r.isDone then r.call c else (r.register c, none)

/-- Call callbacks in order, up to one that fails. -/
def callAll (r : Run) : List Callback → Run × Option Failure
  | [] => (r, none)
  | c :: callbacks =>
    match r.call c with
    | (r, none) => r.callAll callbacks
    | (r, some f) => (r, some f)

/-- Wait for a run. Who waits for a run whose end was announced is given its state at once, and
anyone else when it is announced. -/
def wait (r : Run) : Run :=
  if r.isAnnounced then { r with answers := r.answers ++ [r.state] }
  else { r with waiters := r.waiters + 1 }

/-! ## Running -/

/-- The tasks of the instances before the first turn. -/
def tasks (r : Run) : List Task :=
  r.instances.zipIdx.map fun (i, number) ↦ Task.ofInstance r.view r.document i number

/-- A run at its beginning: every instance is ready to take its first turn. -/
def begun (r : Run) : Run :=
  let r := r.note ("Linting " ++ r.shownName ++ " with " ++ toString r.instances.length
    ++ " rules")
  { r with isStarted := true, turns := { r.turns with ready := r.tasks } }

/-- Start a run, which can be done once. -/
def start (r : Run) : Except Failure Run :=
  if r.isStarted then
    .error ⟨.runtime, "Linting of " ++ r.shownName ++ " was already started"⟩
  else .ok r.begun

/-- What is done when all rules have finished, before any callback is called. -/
def settle (r : Run) : Run :=
  let state := State.ofSeverities (r.diagnostics.map (·.severity))
  let r := { r.withReport r.report.close with state }
  let r := r.note ("Linting of " ++ r.shownName ++ " finished with state " ++ state.name)
  { r with
    isAnnounced := true
    waiters := 0
    answers := r.answers ++ List.replicate r.waiters state }

/-- The end of a run: it is settled, and the callbacks are called. -/
def complete (r : Run) : Run × Option Failure :=
  let r := r.settle
  { r with callbacks := [] }.callAll r.callbacks

/-- Run a run: start it, let all rules take their turns, and complete it, unless some rule waits
forever. -/
def run (r : Run) : Run × Except Failure State :=
  match r.start with
  | .error f => (r, .error f)
  | .ok r =>
    let r := { r with turns := r.turns.finish }
    if r.turns.waiting.isEmpty then
      match r.complete with
      | (r, none) => (r, .ok r.state)
      | (r, some f) => (r, .error f)
    else (r, .ok r.state)

/-- A run as a value, the form in which it is written as JSON. -/
def value (r : Run) : Value :=
  .object [("name", Diagnostic.optionalText r.document.name), ("state", .text r.state.name),
    ("exit_code", .int r.exitCode), ("diagnostics", .list (r.diagnostics.map (·.value)))]

end Run

/-- The finished run of a document with configured rules. -/
def Document.lint (d : Document) (rules : List (String × Value)) : Except Failure Run :=
  (Run.create d rules).map (·.run.1)

end VectorLint
