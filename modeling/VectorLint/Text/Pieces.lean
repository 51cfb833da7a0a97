/-!
# Pieces of a text

A separator divides a text into pieces: one more than there are separators, so two separators in a
row have an empty piece between them.
-/

namespace VectorLint.Text

/-- The pieces of a text between separators. -/
def pieces (separator : Char) : List Char → List (List Char)
  | [] => [[]]
  | c :: cs =>
    match pieces separator cs with
    | [] => [[c]]
    | piece :: rest => if c = separator then [] :: piece :: rest else (c :: piece) :: rest

theorem pieces_ne_nil (separator : Char) (cs : List Char) : pieces separator cs ≠ [] := by
  cases cs with
  | nil => simp [pieces]
  | cons c cs =>
    unfold pieces
    split
    · simp
    · split <;> simp

/-- A text with every line end as a single line feed: a carriage return ends a line alone or
together with the line feed behind it. -/
def plainLineEnds : List Char → List Char
  | '\r' :: '\n' :: cs => '\n' :: plainLineEnds cs
  | '\r' :: cs => '\n' :: plainLineEnds cs
  | c :: cs => c :: plainLineEnds cs
  | [] => []

end VectorLint.Text
