import VectorLint.Config.Basic
import VectorLint.Files.Basic
import VectorLint.Value.Reader

/-!
# Configuration files

A configuration is read from a file with JSON text in UTF-8. Without a file there is the
configuration without rules; a file that is there but cannot be used is an error, whose text names
the file. Unless a file is named, the nearest one is used: the one in the working directory, or else
the one in the nearest directory around it.
-/

namespace VectorLint.Config

/-- The name of a configuration file. -/
def fileName : String := ".svglint.json"

/-- Why the text of a file has no configuration: it is no JSON text, or something else. -/
inductive LoadProblem where
  | malformed (message : String)
  | unusable (message : String)
  deriving DecidableEq, Repr

/-- The failure to load a configuration from a path. -/
def LoadProblem.failure (p : FilePath) : LoadProblem → Failure
  | .malformed message => ⟨.value, "Invalid JSON in config file " ++ p.shown ++ ": " ++ message⟩
  | .unusable message => ⟨.value, "Failed to load config from " ++ p.shown ++ ": " ++ message⟩

/-- How deep the brackets of a configuration may nest. A caller that needs room of its own leaves
less of it. -/
def maxDepth : Nat := 988

/-- The value of a JSON text in which brackets nest at most `depth` deep. -/
def valueOfText (depth : Nat) (cs : List Char) : Except LoadProblem Value :=
  match Json.read depth cs with
  | .ok v => .ok v
  | .error (.grammar problem unread) =>
    .error (.malformed (Json.Fault.message cs (.grammar problem unread)))
  | .error fault => .error (.unusable (fault.message cs))

/-- The configuration in the octets of a file. -/
def ofOctets (depth : Nat) (octets : List UInt8) : Except LoadProblem Config := do
  let cs ← match Text.Utf8.decode octets with
    | (cs, none) => pure (Text.plainLineEnds cs)
    | (_, some fault) => throw (.unusable fault.message)
  let v ← valueOfText depth cs
  match v.fields? with
  | none =>
    throw (.unusable ("svglint.config.SvgLintConfig() argument after ** must be a mapping, not "
      ++ v.kindName))
  | some fields => (ofFields fields).mapError fun faults ↦ .unusable (message faults)

/-- The configuration of the file at a path; without a file, the one without rules. -/
def loadFrom (fs : Files) (depth : Nat) (p : FilePath) : Except Failure Config := do
  if ← fs.holds p then
    match fs.read p with
    | .error f => throw ((LoadProblem.unusable f.shown).failure p)
    | .ok octets => (ofOctets depth octets).mapError (·.failure p)
  else return {}

/-! ## Finding the file -/

/-- Some names in reverse order, and those that are left when names are taken off the end. -/
def outward : List String → List (List String)
  | [] => [[]]
  | name :: names => (name :: names) :: outward names

/-- The names of the configuration files in a directory and around it, the nearest first. -/
def candidates (directory : List String) : List (List String) :=
  (outward (FilePath.resolved directory).reverse).map fun names ↦ (fileName :: names).reverse

/-- The first of some files that is there. -/
def firstOf (fs : Files) : List (List String) → Except Failure (Option FilePath)
  | [] => .ok none
  | names :: others => do
    if ← fs.holds ⟨.root, names⟩ then return some ⟨.root, names⟩ else firstOf fs others

/-- The failure to look into a directory whose path holds the null character. -/
def nullFailure : Failure := ⟨.value, "lstat: embedded null character in path"⟩

/-- The nearest configuration file, in a directory or around it. -/
def find (fs : Files) (start : FilePath) : Except Failure (Option FilePath) :=
  if start.names.any fun name ↦ name.toList.contains '\x00' then .error nullFailure
  else firstOf fs (candidates (fs.namesFromRoot start))

/-- The configuration of the file that is named, or else of the nearest one, with brackets that nest
at most `depth` deep. -/
def load (fs : Files) (depth : Nat) (path : Option FilePath) : Except Failure Config :=
  match path with
  | some p => loadFrom fs depth p
  | none => do
    match ← find fs ⟨.here, []⟩ with
    | some p => loadFrom fs depth p
    | none => return {}

end VectorLint.Config
