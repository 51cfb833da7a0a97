import VectorLint.Terminal.Width
import VectorLint.Text.Blank
import VectorLint.Text.Pieces

/-!
# Lines on a terminal

A text is set in lines of a greatest width. Its own line feeds end lines. A tab fills up to the next
column that is a multiple of eight. Words that do not fit any more begin a new line; a word that
fits on no line is folded onto several, or cut with an ellipsis. Blanks that hang over the end of a
line are dropped.
-/

namespace VectorLint.Terminal

/-- What becomes of a word that is wider than a line. -/
inductive LongWord where
  | folded
  | cut
  deriving DecidableEq, Repr

/-- The distance between two columns that tabs fill up to. -/
def tabWidth : Nat := 8

/-- A line with blanks for its tabs, behind a number of cells. -/
def withoutTabsBehind (column : Nat) : List (List Char) → List Char
  | [] => []
  | [piece] => piece
  | piece :: pieces =>
    let column := column + width piece + 1
    let fill := (tabWidth - column % tabWidth) % tabWidth
    piece ++ List.replicate (fill + 1) ' ' ++ withoutTabsBehind (column + fill) pieces

/-- A line with blanks for its tabs. -/
def withoutTabs (cs : List Char) : List Char := withoutTabsBehind 0 (Text.pieces '\t' cs)

/-- The words of a line behind the characters of a word, the last of them first. -/
def wordsBehind (word : List Char) (hasInk : Bool) : List Char → List (List Char)
  | [] => if hasInk then [word.reverse] else []
  | c :: cs =>
    if !Text.isBlank c && hasInk && word.head?.any Text.isBlank then
      word.reverse :: wordsBehind [c] true cs
    else wordsBehind (c :: word) (hasInk || !Text.isBlank c) cs

/-- The words of a line, each with the blanks behind it, and the first one with those before it too.
A line of blanks has no words. -/
def words (cs : List Char) : List (List Char) := wordsBehind [] false cs

/-- A text without the blanks at its end. -/
def withoutEnd (cs : List Char) : List Char := (cs.reverse.dropWhile Text.isBlank).reverse

/-- Graphemes in pieces that fit into a width. The current piece has some characters and takes so
many cells. -/
def choppedBehind (room : Nat) (piece : List Char) (cells : Nat) : List Grapheme → List (List Char)
  | [] => [piece]
  | g :: gs =>
    if cells + g.cells ≤ room then choppedBehind room (piece ++ g.chars) (cells + g.cells) gs
    else piece :: choppedBehind room g.chars g.cells gs

/-- A word in pieces that fit into a width. -/
def chopped (room : Nat) (cs : List Char) : List (List Char) :=
  choppedBehind room [] 0 (graphemes cs)

/-- The lines that are ended so far, the last of them first; the current line; and how many cells
count as taken in it. -/
structure Setting where
  ended : List (List Char) := []
  current : List Char := []
  cells : Nat := 0

/-- End the current line, unless nothing was set yet, and begin the next with some characters. -/
def Setting.breakWith (s : Setting) (cs : List Char) : Setting :=
  if s.ended.isEmpty && s.current.isEmpty then { s with current := cs, cells := width cs }
  else { ended := s.current :: s.ended, current := cs, cells := width cs }

/-- Set a word. -/
def Setting.word (room : Nat) (long : LongWord) (s : Setting) (w : List Char) : Setting :=
  let needed := width (withoutEnd w)
  if s.cells + needed ≤ room then
    { s with current := s.current ++ w, cells := s.cells + width w }
  else if room < needed then
    match long with
    | .folded => (chopped room w).foldl Setting.breakWith s
    | .cut => s.breakWith w
  else if s.cells = 0 then { s with current := s.current ++ w }
  else s.breakWith w

/-- The lines of a setting. -/
def Setting.lines (s : Setting) : List (List Char) := (s.current :: s.ended).reverse

/-- A line without the blanks that hang over its end. -/
def withoutOverhang (room : Nat) (cs : List Char) : List Char :=
  let blanks := (cs.reverse.takeWhile Text.isBlank).length
  cs.take (cs.length - min blanks (cs.length - room))

/-- A line that fits into a width. -/
def fitted (room : Nat) (long : LongWord) (cs : List Char) : List Char :=
  if width cs ≤ room then cs
  else
    match long with
    | .folded => cut room cs
    | .cut => cut (room - 1) cs ++ ['…']

/-- A line of a text in lines of a width. -/
def setLine (room : Nat) (long : LongWord) (cs : List Char) : List (List Char) :=
  let cs := withoutTabs cs
  let found := words cs
  let lines := if found.isEmpty then [cs] else (found.foldl (Setting.word room long) {}).lines
  lines.map fun line ↦ fitted room long (withoutOverhang room line)

/-- A text in lines of a width. -/
def setText (room : Nat) (long : LongWord) (cs : List Char) : List (List Char) :=
  (Text.pieces '\n' cs).flatMap (setLine room long)

end VectorLint.Terminal
