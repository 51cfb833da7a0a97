import VectorLint.Terminal.Lines

/-!
# Tables on a terminal

A table is drawn with lines around its cells and a heavy head. A column is as wide as its widest
line, with a blank on either side. When all columns together are too wide, the widest give up cells
until they are as wide as the next one, and so on, until the table fits; text that is too wide then
for its column is set in lines, and words that are too wide are cut.
-/

namespace VectorLint.Terminal

/-- A table: the texts of its head, and those of its rows. -/
structure Table where
  head : List (List Char)
  rows : List (List (List Char))

namespace Table

/-- Whether a character ends a line, in the measure of a text. -/
def isLineEnd (c : Char) : Bool :=
  let n := c.toNat
  (0x0A ≤ n && n ≤ 0x0D) || (0x1C ≤ n && n ≤ 0x1E) || n = 0x85 || n = 0x2028 || n = 0x2029

/-- The lines of a text, in the measure of a text. -/
def measuredLines : List Char → List (List Char)
  | [] => [[]]
  | c :: cs =>
    match measuredLines cs with
    | [] => [[c]]
    | line :: lines => if isLineEnd c then [] :: line :: lines else (c :: line) :: lines

/-- How many cells the widest line of a text takes. -/
def measure (cs : List Char) : Nat := ((measuredLines cs).map width).foldl max 0

/-- The blanks around the text of a cell. -/
def padding : Nat := 2

/-- How wide a column with some texts wants to be when it may be at most so wide. -/
def columnWidth (most : Nat) (texts : List (List Char)) : Nat :=
  if most < 1 then 0
  else
    let widthOf (cs : List Char) : Nat :=
      if most < padding + 1 then most else min most (measure cs + padding)
    (texts.map widthOf).foldl max 0

/-- The quotient nearest to `n / d`, and of two nearest ones the even one. -/
def nearestQuotient (n d : Nat) : Nat :=
  let q := n / d
  let rest := n % d
  if 2 * rest < d then q else if d < 2 * rest then q + 1 else q + q % 2

/-- Widths less an excess, shared as evenly as whole numbers allow among those that have a share,
each of which gives up no more than its limit. -/
def reduced (excess shares : Nat) : List (Nat × Nat × Bool) → List Nat
  | [] => []
  | (w, limit, hasShare) :: rest =>
    if hasShare && limit ≠ 0 && shares ≠ 0 then
      let given := min limit (nearestQuotient excess shares)
      (w - given) :: reduced (excess - given) (shares - 1) rest
    else w :: reduced excess shares rest

/-- How wide columns of some widths are together. -/
def together (ws : List Nat) : Nat := ws.foldr (· + ·) 0

/-- Widths that fit into `most`, if the widest can be brought down to the next ones. Each step
leaves fewer different widths, so there are no more steps than columns. -/
def collapsed (most : Nat) : Nat → List Nat → List Nat
  | 0, ws => ws
  | steps + 1, ws =>
    if together ws ≤ most then ws
    else
      let excess := together ws - most
      let widest := ws.foldl max 0
      let next := (ws.filter (· ≠ widest)).foldl max 0
      let limit := min excess (widest - next)
      let shares := (ws.filter (· = widest)).length
      collapsed most steps (reduced excess shares (ws.map fun w ↦ (w, limit, w = widest)))

/-- The columns of a table, the texts of each from the head down. -/
def columns (t : Table) : List (List (List Char)) :=
  t.head.zipIdx.map fun (title, i) ↦ title :: t.rows.map fun row ↦ row.getD i []

/-- The widths of the columns of a table, together at most `most`. -/
def widths (most : Nat) (t : Table) : List Nat :=
  let wanted := t.columns.map fun texts ↦ max 1 (columnWidth most texts)
  if together wanted ≤ most then wanted
  else
    let narrowed := collapsed most (wanted.length + 1) wanted
    let narrowed :=
      if together narrowed ≤ most then narrowed
      else
        reduced (together narrowed - most) (narrowed.filter (· ≠ 0)).length
          (narrowed.map fun w ↦ (w, w, true))
    List.zipWith columnWidth narrowed t.columns

/-- A row of cells: for each column its width and the text, set in lines between two lines. -/
def drawRow (line : Char) (cells : List (Nat × List Char)) : List (List Char) :=
  let set := cells.map fun (w, cs) ↦ (w, setText (w - padding) .cut cs)
  let height := (set.map fun (_, lines) ↦ lines.length).foldl max 1
  (List.range height).map fun i ↦
    set.flatMap (fun (w, lines) ↦
      line :: ' ' :: padded (w - padding) (lines.getD i []) ++ [' ']) ++ [line]

/-- A horizontal line through the columns. -/
def drawRule (left line cross right : Char) (widths : List Nat) : List Char :=
  left :: [cross].intercalate (widths.map fun w ↦ List.replicate w line) ++ [right]

/-- The lines of a table on a terminal of some width. -/
def draw (room : Nat) (t : Table) : List (List Char) :=
  let ws := t.widths (room - (t.head.length + 1))
  [drawRule '┏' '━' '┳' '┓' ws]
    ++ drawRow '┃' (ws.zip t.head)
    ++ [drawRule '┡' '━' '╇' '┩' ws]
    ++ t.rows.flatMap (fun row ↦ drawRow '│' (ws.zip row))
    ++ [drawRule '└' '─' '┴' '┘' ws]

end Table

end VectorLint.Terminal
