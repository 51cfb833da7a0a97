/-!
# Classes of code points by their changes

A class of code points that consists of many ranges is stored as the increasing list of the code
points at which membership changes: the first entry starts a range, the second is the first code
point behind it, and so on. A code point is in the class exactly when an odd number of changes
lies at or below it.
-/

namespace VectorLint.Text

/-- Whether an odd number of the increasing `changes` lies at or below `n`. -/
def betweenChanges (changes : List Nat) (n : Nat) : Bool :=
  match changes with
  | [] => false
  | lo :: rest =>
    if n < lo then false
    else match rest with
      | [] => true
      | hi :: more => if n < hi then true else betweenChanges more n

end VectorLint.Text
