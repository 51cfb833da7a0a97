import VectorLint.Run.Basic
import VectorLint.Files.Path
import VectorLint.Terminal.Markup
import VectorLint.Terminal.Table

/-!
# Showing results

Each path has a result: the run of its file, or the reason why there is none. Results are shown as
JSON or as lines and tables. A table shows texts, so a finding whose message is another value cannot
be shown in one; what was shown before it stays.
-/

namespace VectorLint.CommandLine

/-- The result for a path: its run, or the text that says why the file could not be linted. -/
structure Result where
  path : FilePath
  outcome : Except Failure Run

/-- What is printed, and the failure that ends the printing if one does. -/
structure Printed where
  text : String := ""
  failure : Option Failure := none

namespace Printed

/-- What two parts print one behind the other, if the first one does not fail. -/
def append (p q : Printed) : Printed :=
  match p.failure with
  | some _ => p
  | none => { q with text := p.text ++ q.text }

instance : Append Printed := ⟨append⟩

/-- What parts print one behind the other. -/
def concat (parts : List Printed) : Printed := parts.foldl append {}

/-- Lines of text. -/
def lines (ls : List (List Char)) : Printed :=
  ⟨String.ofList (ls.flatMap fun l ↦ l ++ ['\n']), none⟩

end Printed

/-- The width of the terminal. -/
def terminalWidth : Nat := 1000

open Terminal (Markup.escape Markup.plain Markup.read Markup.stylesHold)

/-- Marked text, set in lines. -/
def printMarked (s : String) : Printed :=
  let printed : Except Failure Printed := do
    let (cs, stretches) ← Markup.read s
    let lines := Terminal.setText terminalWidth .folded cs
    Markup.stylesHold cs (lines.length = 1 && !cs.contains '\t') stretches
    return .lines lines
  match printed with
  | .ok printed => printed
  | .error f => { failure := some f }

/-- Marked text in a color. -/
def colored (color s : String) : String := "[" ++ color ++ "]" ++ s ++ "[/" ++ color ++ "]"

/-- The color of a state. -/
def stateColor : Run.State → String
  | .success => "green"
  | .warning => "yellow"
  | .error => "red"
  | .pending => "white"

/-- The color of a severity. -/
def severityColor : Severity → String
  | .warning => "yellow"
  | _ => "red"

/-- The cells of a finding, as marked text. -/
def markedCells (d : Diagnostic) : Except Failure (List String) :=
  match d.message with
  | .text message =>
    .ok [Markup.escape (d.rule.getD ""), colored (severityColor d.severity) d.severity.label,
      Markup.escape message, Markup.escape (d.location.getD "")]
  | v =>
    .error ⟨.type, "expected string or bytes-like object, got '" ++ v.kindName ++ "'"⟩

/-- The titles of the columns. -/
def titles : List String := ["Rule", "Severity", "Message", "Location"]

/-- The table of findings. -/
def table (ds : List Diagnostic) : Except Failure Terminal.Table := do
  let marked ← ds.mapM markedCells
  let rows ← marked.mapM fun cells ↦ cells.mapM Markup.plain
  return ⟨titles.map String.toList, rows⟩

/-- A result as a line and, if there are findings, a table. -/
def Result.printed (r : Result) : Printed :=
  let path := Markup.escape r.path.shown
  match r.outcome with
  | .error f =>
    printMarked (colored "red" (path ++ ": FAILED TO LINT") ++ " " ++ Markup.escape f.shown)
  | .ok run =>
    let status := printMarked (colored (stateColor run.state) (path ++ ": " ++ run.state.label))
    if run.diagnostics.isEmpty then status
    else
      status ++ match table run.diagnostics with
        | .ok t => .lines (t.draw terminalWidth)
        | .error f => { failure := some f }

/-- A result as a value, the form in which it is written as JSON. -/
def Result.value (r : Result) : Value :=
  match r.outcome with
  | .ok run => run.value
  | .error f =>
    .object [("name", .text r.path.shown), ("state", .text "failed"), ("exit_code", .int 1),
      ("error", .text f.shown)]

/-- How results are shown. -/
inductive Format where
  | table
  | json
  deriving DecidableEq, Repr

/-- The names of the formats. -/
def Format.names : List (String × Format) := [("table", .table), ("json", .json)]

/-- The format with a given name. -/
def Format.ofName? (name : String) : Option Format := names.lookup name

/-- Results in a format. -/
def printResults (results : List Result) : Format → Printed
  | .table => .concat (results.map (·.printed))
  | .json => ⟨(Value.list (results.map (·.value))).indentedJson ++ "\n", none⟩

/-- The exit code for a result. -/
def Result.exitCode (r : Result) : Nat :=
  match r.outcome with
  | .ok run => run.exitCode
  | .error _ => 1

/-- The exit code for results: one if any of them has it. -/
def exitCode (results : List Result) : Nat := if results.any (·.exitCode ≠ 0) then 1 else 0

end VectorLint.CommandLine
