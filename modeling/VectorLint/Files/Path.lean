import VectorLint.Text.Pieces

/-!
# Paths

A path is a list of names that starts at the root or at the working directory. Empty names and the
name `.` say nothing and are left out, so a path has a normal form in which it is shown. The name
`..` stays, since what lies above a name depends on the files. Two slashes at the start, and no
more, are a root of their own.
-/

namespace VectorLint

/-- Where a path starts. -/
inductive FilePath.Start where
  | here
  | root
  | otherRoot
  deriving DecidableEq, Repr

/-- A path. -/
structure FilePath where
  start : FilePath.Start
  names : List String
  deriving DecidableEq, Repr

namespace FilePath

/-- A start as it is shown. -/
def Start.shown : Start → String
  | here => ""
  | root => "/"
  | otherRoot => "//"

/-- Where a written path starts. -/
def Start.of : List Char → Start
  | '/' :: '/' :: '/' :: _ => root
  | '/' :: '/' :: _ => otherRoot
  | '/' :: _ => root
  | _ => here

/-- Whether a piece of a written path is a name that says something. -/
def isName (piece : List Char) : Bool := piece ≠ [] && piece ≠ ['.']

/-- The path that a text writes. -/
def ofString (s : String) : FilePath where
  start := .of s.toList
  names := ((Text.pieces '/' s.toList).filter isName).map String.ofList

/-- A path as it is shown. The path of the working directory is a point. -/
def shown (p : FilePath) : String :=
  let text := p.start.shown ++ "/".intercalate p.names
  if text = "" then "." else text

/-- Names without `..`, each of which takes back the name before it. At the root it takes back
nothing. -/
def resolved (names : List String) : List String :=
  (names.foldl (fun read name ↦ if name = ".." then read.drop 1 else name :: read) []).reverse

end FilePath

end VectorLint
