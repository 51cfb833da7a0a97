import VectorLint.Config.Basic
import VectorLint.Files.Basic
import VectorLint.Run.Basic

/-!
# Linting in one go

Markup, or the file at a path, is linted with a configuration that is given as a value. The markup
is read first, and only then is the configuration looked at and are the rules built. Each can fail,
and then there is no run; the log tells how far it came. A file is read as octets, under the path by
which it was asked for.
-/

namespace VectorLint

/-- The finished run of markup under a name, with the log. -/
def Markup.Source.lint (source : Source) (config : Value) (name : Option String := none) :
    Except Failure Run × List Log.Record :=
  match Document.ofSource source name with
  | .error e => (.error e.failure, [])
  | .ok d =>
    match Config.coerce config with
    | .error f => (.error f, [d.record])
    | .ok c =>
      match d.lint c.rules with
      | .error f => (.error f, d.record :: Rule.Instance.rejections .standard c.rules)
      | .ok r => (.ok r, d.record :: r.report.log.toList)

/-- The finished run of the file at a path, with the log. -/
def Files.lint (fs : Files) (p : FilePath) (config : Value) :
    Except Failure Run × List Log.Record :=
  match fs.read p with
  | .error f => (.error f, [])
  | .ok content => (Markup.Source.octets content).lint config (some p.shown)

end VectorLint
