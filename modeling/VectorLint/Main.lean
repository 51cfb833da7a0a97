import VectorLint.CommandLine.Basic

/-!
# The program

The answer of the command line is a function of the files, so the program first reads the files that
the answer may depend on, then computes the answer, and then gives it. Which files these are follows
from the arguments: the paths among them, and the places where a configuration is searched unless
one is named.
-/

namespace VectorLint.Main

/-- The names, from the root, of each entry that the answer to arguments may depend on. -/
def neededNames (workingDirectory : List String) (args : List String) : List (List String) :=
  match CommandLine.Request.ofArguments args with
  | .lint r =>
    let fs : Files := ⟨Files.emptyDirectory, workingDirectory⟩
    let named := (r.config.toList ++ r.paths).map fs.namesFromRoot
    let searched := match r.config with
      | some _ => []
      | none => Config.candidates (fs.namesFromRoot ⟨.here, []⟩)
    named ++ searched
  | _ => []

/-- A tree with the entry at the end of some names, as it is on the disk. Where nothing is, the tree
stays as it is. -/
def addEntry (root : Files.Entry) (names : List String) : IO Files.Entry := do
  let names := FilePath.resolved names
  try
    let content ← IO.FS.readBinFile ("/" ++ "/".intercalate names)
    return root.putFile content.toList names
  catch
    | .inappropriateType .. => return root.putDirectory names
    | .noFileOrDirectory .. => return root
    | e => throw e

/-- A tree with each entry that names lead through. -/
def addPath (root : Files.Entry) (names : List String) : IO Files.Entry :=
  (List.range (names.length + 1)).foldlM (fun root n ↦ addEntry root (names.take n)) root

/-- Run the program. -/
def run (args : List String) : IO UInt32 := do
  let workingDirectory := (FilePath.ofString (← IO.currentDir).toString).names
  let root ← (neededNames workingDirectory args).foldlM addPath Files.emptyDirectory
  let reply := CommandLine.run ⟨root, workingDirectory⟩ args
  for r in reply.log do IO.eprintln (r.level.name ++ " " ++ r.message)
  IO.print reply.output
  for m in reply.misuse do IO.eprintln ("Error: " ++ m.wording)
  for f in reply.unexpected do IO.eprintln (f.kind.name ++ ": " ++ f.shown)
  return UInt32.ofNat reply.exitCode

end VectorLint.Main

/-- The program. -/
def main (args : List String) : IO UInt32 := VectorLint.Main.run args
