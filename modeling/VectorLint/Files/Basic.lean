import VectorLint.Files.Path
import VectorLint.Report.Failure
import VectorLint.Text.Utf8

/-!
# Files

The files that a program can see form a tree of directories, and one directory is the working
directory, where relative paths start. A path is followed name by name: each name but the last has
to be that of a directory, and `..` leads back to where the directory lies. At the root it leads
nowhere else.

Names and paths have a greatest length, counted in octets, and no path holds the null character.
-/

namespace VectorLint

/-- A file with its octets, or a directory with its entries by name. -/
inductive Files.Entry where
  | file (content : List UInt8)
  | directory (entries : List (String × Files.Entry))

/-- A tree of files, and the names that lead from its root to the working directory. -/
structure Files where
  root : Files.Entry
  workingDirectory : List String := []

namespace Files

/-- Why a path leads nowhere. -/
inductive Problem where
  | notFound
  | notADirectory
  | nameTooLong
  | nullCharacter
  deriving DecidableEq, Repr

/-- The most octets in a name. -/
def maxNameLength : Nat := 255

/-- The most octets in a path. -/
def maxPathLength : Nat := 4095

/-- The entry that names lead to, from an entry and the directories around it, the nearest first. -/
def walk : Entry → List Entry → List String → Except Problem Entry
  | entry, _, [] => .ok entry
  | .file _, _, _ => .error .notADirectory
  | .directory entries, above, name :: names =>
    if name = ".." then
      match above with
      | [] => walk (.directory entries) [] names
      | parent :: above => walk parent above names
    else if maxNameLength < name.utf8ByteSize then .error .nameTooLong
    else
      match entries.lookup name with
      | none => .error .notFound
      | some entry => walk entry (.directory entries :: above) names

/-- The names that lead from the root to the end of a path. -/
def namesFromRoot (fs : Files) (p : FilePath) : List String :=
  match p.start with
  | .here => fs.workingDirectory ++ p.names
  | _ => p.names

/-- The entry at the end of a path. -/
def entry (fs : Files) (p : FilePath) : Except Problem Entry :=
  let text := p.shown
  if text.toList.contains '\x00' then .error .nullCharacter
  else if maxPathLength < text.utf8ByteSize then .error .nameTooLong
  else walk fs.root [] (fs.namesFromRoot p)

/-- The failure that a problem with a path is. -/
def Problem.failure (p : FilePath) : Problem → Failure
  | .notFound => ⟨.fileNotFound, "[Errno 2] No such file or directory: " ++ Text.quoted p.shown⟩
  | .notADirectory => ⟨.notADirectory, "[Errno 20] Not a directory: " ++ Text.quoted p.shown⟩
  | .nameTooLong => ⟨.os, "[Errno 36] File name too long: " ++ Text.quoted p.shown⟩
  | .nullCharacter => ⟨.value, "embedded null byte"⟩

/-- Whether a path leads to an entry. That a name is too long is not for a search to answer. -/
def holds (fs : Files) (p : FilePath) : Except Failure Bool :=
  match fs.entry p with
  | .ok _ => .ok true
  | .error .nameTooLong => .error (Problem.nameTooLong.failure p)
  | .error _ => .ok false

/-- The octets of the file at the end of a path. -/
def read (fs : Files) (p : FilePath) : Except Failure (List UInt8) :=
  match fs.entry p with
  | .ok (.file content) => .ok content
  | .ok (.directory _) =>
    .error ⟨.isADirectory, "[Errno 21] Is a directory: " ++ Text.quoted p.shown⟩
  | .error problem => .error (problem.failure p)

/-! ## Making trees -/

/-- The directory without entries. -/
def emptyDirectory : Entry := .directory []

/-- Entries with one of them changed: `change` is given the entry of the name, or the directory
without entries if there is none. -/
def updated (name : String) (change : Entry → Entry) : List (String × Entry) → List (String × Entry)
  | [] => [(name, change emptyDirectory)]
  | (k, e) :: entries =>
    if k = name then (k, change e) :: entries else (k, e) :: updated name change entries

/-- An entry with `new` at the end of some names. Directories that are missing are made. -/
def Entry.put (new : Entry → Entry) : List String → Entry → Entry
  | [], e => new e
  | name :: names, .directory entries => .directory (updated name (Entry.put new names) entries)
  | _ :: _, .file content => .file content

/-- An entry with a file at the end of some names. -/
def Entry.putFile (content : List UInt8) (names : List String) (e : Entry) : Entry :=
  e.put (fun _ ↦ .file content) names

/-- An entry with a directory at the end of some names. -/
def Entry.putDirectory (names : List String) (e : Entry) : Entry := e.put id names

end Files

end VectorLint
