import VectorLint.CommandLine.Request
import VectorLint.CommandLine.Results
import VectorLint.Config.Load

/-!
# The command line

The program reads its arguments and the files and answers with what it prints, an exit code, and a
log. Files are linted one after the other and shown when all are done. A file that is not there or
holds no document has a result that says so; any other failure ends the program before it has shown
a result. So does a mistake in the arguments or in the configuration, in this order.
-/

namespace VectorLint.CommandLine

/-- What the program answers: what it prints, how it exits, what it did not understand, the failure
that it did not expect, and the part of the log that is shown. -/
structure Reply where
  output : String := ""
  exitCode : Nat := 0
  misuse : Option Misuse := none
  unexpected : Option Failure := none
  log : List Log.Record := []

namespace Reply

/-- The answer to what the program was not made for. -/
def failed (f : Failure) (output : String := "") : Reply :=
  { output, exitCode := 1, unexpected := some f }

/-- The answer that prints something and exits. -/
def ofPrinted (p : Printed) (exitCode : Nat) : Reply :=
  match p.failure with
  | none => { output := p.text, exitCode }
  | some f => failed f p.text

end Reply

/-- The version of the program. -/
def version : String := "0.1.0"

/-- The file at a path, linted with configured rules. The log starts with the document. -/
def lintFile (fs : Files) (rules : List (String × Value)) (p : FilePath) :
    Except Failure (Run × List Log.Record) := do
  let content ← fs.read p
  let d ← (Document.ofSource (.octets content) (some p.shown)).mapError (·.failure)
  let r ← d.lint rules
  return (r, d.record :: r.report.log.toList)

/-- Whether a failure to lint a file is a result of its own. -/
def isResult (f : Failure) : Bool := f.kind = .fileNotFound || f.kind = .document

/-- The results for paths and the log, up to a failure that is no result. -/
def lintAll (fs : Files) (rules : List (String × Value)) :
    List FilePath → Except Failure (List Result) × List Log.Record
  | [] => (.ok [], [])
  | p :: paths =>
    match lintFile fs rules p with
    | .ok (r, log) =>
      let (results, more) := lintAll fs rules paths
      (results.map (⟨p, .ok r⟩ :: ·), log ++ more)
    | .error f =>
      if isResult f then
        let (results, log) := lintAll fs rules paths
        (results.map (⟨p, .error f⟩ :: ·), log)
      else (.error f, [])

/-- The answer to a request to lint, once the format and the configuration are known. -/
def lintWith (fs : Files) (r : LintRequest) (format : Format) (c : Config) : Reply :=
  let level := if r.debug then .debug else c.level.logLevel
  let (results, log) := lintAll fs c.rules r.paths
  let reply := match results with
    | .ok results => Reply.ofPrinted (printResults results format) (exitCode results)
    | .error f => .failed f
  { reply with log := log.filter (·.reaches level) }

/-- What is printed before the text of an error. -/
def errorMark : String := colored "red" "Error:" ++ " "

/-- How deep the brackets of a configuration may nest here: the command line needs room for nine
calls of its own. This is the room where the configuration is read. Where a value of it is written
into the text of a failure there have been more calls, which are not counted: all that was read can
be written. -/
def maxDepth : Nat := Config.maxDepth - 9

/-- The answer to a request to lint. -/
def lint (fs : Files) (r : LintRequest) : Reply :=
  match Format.ofName? r.format with
  | none =>
    .ofPrinted (printMarked (errorMark ++ "Invalid format '" ++ r.format
      ++ "'. Must be one of: " ++ ", ".intercalate (Format.names.map (·.1)))) 1
  | some format =>
    match Config.load fs maxDepth r.config with
    | .ok c => lintWith fs r format c
    | .error f =>
      if f.kind = .value then
        .ofPrinted (printMarked (errorMark ++ Terminal.Markup.escape f.shown)) 1
      else .failed f

/-- What the program says about itself. -/
def helpText : String :=
  "Usage: svglint [--help] [-v | --version] COMMAND [ARGS]...\n\n"
  ++ "Lint SVG files against declarative structural rules.\n\n"
  ++ "Commands:\n"
  ++ "  lint PATHS...  Lint SVG files against the configured rules.\n\n"
  ++ "Options of lint:\n"
  ++ "  -c, --config PATH    Configuration file (default: search for " ++ Config.fileName ++ ")\n"
  ++ "  -f, --format FORMAT  Output format: table, json (default: table)\n"
  ++ "  -d, --debug          Show the whole log\n"
  ++ "  --help               Show this text\n"

/-- The answer to arguments. -/
def run (fs : Files) (args : List String) : Reply :=
  match Request.ofArguments args with
  | .help => { output := helpText }
  | .version => .ofPrinted (printMarked ("svglint version " ++ version)) 0
  | .lint r => lint fs r
  | .misuse m => { exitCode := 2, misuse := some m }

end VectorLint.CommandLine
