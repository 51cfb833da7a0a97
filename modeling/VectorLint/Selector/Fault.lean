import VectorLint.Report.Failure

/-!
# Faults of selector text

A fault of the grammar is shown with the selector below it and a mark under its place. If the
selector has several lines, the line of the fault is marked by an arrow as well; a fault at the very
end of several lines is shown without a mark, as one of the first line.
-/

namespace VectorLint.Selector

/-- The lines of a text, each with its place and the length of the break behind it. -/
def linesWith (start : Nat) (read : List Char) (offset : Nat) :
    List Char → List (List Char × Nat × Nat)
  | [] => [(read.reverse, start, 0)]
  | '\r' :: '\n' :: cs => (read.reverse, start, 2) :: linesWith (offset + 2) [] (offset + 2) cs
  | c :: cs =>
    if c = '\n' || c = '\r' then
      (read.reverse, start, 1) :: linesWith (offset + 1) [] (offset + 1) cs
    else linesWith start (c :: read) (offset + 1) cs

/-- So many blanks, and a mark. -/
def mark (blanks : Nat) : String := String.ofList (List.replicate blanks ' ') ++ "^"

/-- A selector with a mark at a place, and the number of the line that it is in. -/
def context (pattern : List Char) (place : Nat) : Nat × String :=
  match linesWith 0 [] 0 pattern with
  | [(line, _, _)] => (1, String.ofList line ++ "\n" ++ mark place)
  | lines =>
    let marked := lines.map fun (line, start, broken) ↦
      let text := String.ofList line
      if start ≤ place && place < start + line.length + broken then
        let blanks := place - start + 4 - (if place > start + line.length then 1 else 0)
        "--> " ++ text ++ "\n" ++ mark blanks
      else "    " ++ text
    let number := lines.findIdx? fun (line, start, broken) ↦
      start ≤ place && place < start + line.length + broken
    ((number.getD 0) + 1, "\n".intercalate marked)

/-- A fault of the grammar at a place. -/
def grammarFailure (pattern : List Char) (place : Nat) (message : String) : Failure :=
  let (line, text) := context pattern place
  ⟨.selector, message ++ "\n  line " ++ toString line ++ ":\n" ++ text⟩

end VectorLint.Selector
