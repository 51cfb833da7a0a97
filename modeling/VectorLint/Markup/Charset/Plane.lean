import VectorLint.Text.Quoted

/-!
# Planes of characters

A large character set lays its characters out in a plane: the first octet of a character gives the
row, the second one the place in the row. The plane is written row after row without a mark between
the rows, in lines of equal length, so that a line holds as much as the page is wide. A place
without a character is a full stop, which no plane has.
-/

namespace VectorLint.Markup.Charset

/-- A plane: the first octet of its first row, the ranges of the second octets, and its characters.
-/
structure Plane where
  first : Nat
  seconds : List (Nat × Nat)
  lines : List String

/-- The number of characters in a line. -/
def lineLength : Nat := 90

/-- The place of a number among those of some ranges. -/
def place? (n : Nat) : List (Nat × Nat) → Option Nat
  | [] => none
  | (low, high) :: ranges =>
    if low ≤ n && n ≤ high then some (n - low)
    else (place? n ranges).map (· + (high + 1 - low))

/-- The character at a place of a text, unless the place is empty. -/
def filled? (line : String) (i : Nat) : Option Char :=
  line.toList[i]?.filter (· != '.')

namespace Plane

/-- The number of places in a row. -/
def rowLength (p : Plane) : Nat := (p.seconds.map fun (low, high) ↦ high + 1 - low).foldr (· + ·) 0

/-- The character of two octets. -/
def char? (p : Plane) (a b : Nat) : Option Char := do
  let row ← if p.first ≤ a then some (a - p.first) else none
  let i := row * p.rowLength + (← place? b p.seconds)
  filled? (← p.lines[i / lineLength]?) (i % lineLength)

end Plane

/-- The character of two octets in the first of some planes that has one. -/
def charOf? (planes : List Plane) (a b : Nat) : Option Char :=
  planes.findSome? (·.char? a b)

/-- The character of two octets in runs of characters: each run is given by the octets of its first
character and lies in one row. -/
def runChar? (runs : List (Nat × String)) (a b : Nat) : Option Char :=
  runs.findSome? fun (start, run) ↦
    let code := 256 * a + b
    if start ≤ code then filled? run (code - start) else none

end VectorLint.Markup.Charset
