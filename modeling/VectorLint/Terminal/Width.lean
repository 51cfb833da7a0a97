import VectorLint.Terminal.Width.Table
import VectorLint.Text.Changes

/-!
# Widths on a terminal

A terminal has cells, and a character takes none, one or two of them. Two characters change the
width of others: a joiner makes the character behind it part of the one before, and a variation
selector widens the character before it if that has a form as an emoji.
-/

namespace VectorLint.Terminal

/-- How many cells a character takes on its own. -/
def charWidth (c : Char) : Nat :=
  let n := c.toNat
  if n < 0x20 then 0
  else if n < 0x7F then 1
  else if Text.betweenChanges noWidthChanges n then 0
  else if Text.betweenChanges wideChanges n then 2
  else 1

/-- The joiner of characters. -/
def joiner : Char := '\u200d'

/-- The variation selector that asks for the form of an emoji. -/
def emojiSelector : Char := '\ufe0f'

/-- How many cells characters take, behind a character that a selector may widen. -/
def widthBehind (last : Option Char) : List Char → Nat
  | [] => 0
  | c :: cs =>
    if c = joiner then
      match cs with
      | [] => 0
      | _ :: cs => widthBehind last cs
    else if c = emojiSelector then
      match last with
      | some l =>
        (if Text.betweenChanges emojiFormChanges l.toNat then 1 else 0) + widthBehind none cs
      | none => widthBehind none cs
    else
      let w := charWidth c
      w + widthBehind (if w = 0 then last else some c) cs

/-- How many cells characters take. -/
def width (cs : List Char) : Nat := widthBehind none cs

/-! ## Graphemes

A text is divided only between graphemes: a character with those that take no cell, with a selector,
and with what a joiner joins to it.
-/

/-- Characters that are shown as one, and how many cells they take. -/
structure Grapheme where
  chars : List Char
  cells : Nat
  deriving DecidableEq, Repr

/-- Some characters put to the last of graphemes, which are given with the last one first. If there
is none yet, they are one without a width. -/
def Grapheme.extend (found : List Grapheme) (cs : List Char) (cells : Nat) : List Grapheme :=
  match found with
  | [] => [⟨cs, 0⟩]
  | g :: rest => ⟨g.chars ++ cs, g.cells + cells⟩ :: rest

/-- The graphemes of characters, behind those found before with the last one first, and behind a
character that a selector may widen. -/
def graphemesBehind (found : List Grapheme) (last : Option Char) : List Char → List Grapheme
  | [] => found.reverse
  | c :: cs =>
    if c = joiner && !found.isEmpty then
      match cs with
      | [] => graphemesBehind (Grapheme.extend found [c] 0) last []
      | d :: cs => graphemesBehind (Grapheme.extend found [c, d] 0) last cs
    else if c = emojiSelector then
      if last.any fun l ↦ Text.betweenChanges emojiFormChanges l.toNat then
        graphemesBehind (Grapheme.extend found [c] 1) none cs
      else graphemesBehind (Grapheme.extend found [c] 0) last cs
    else if charWidth c = 0 then graphemesBehind (Grapheme.extend found [c] 0) last cs
    else graphemesBehind (⟨[c], charWidth c⟩ :: found) (some c) cs

/-- The graphemes of characters. -/
def graphemes (cs : List Char) : List Grapheme := graphemesBehind [] none cs

/-- The graphemes at the start that fit into a number of cells, and a blank for a cell that stays
free because a wide one does not fit. -/
def cutGraphemes : Nat → List Grapheme → List Char
  | _, [] => []
  | 0, _ => []
  | room, g :: gs =>
    if g.cells ≤ room then g.chars ++ cutGraphemes (room - g.cells) gs else [' ']

/-- The characters at the start that fit into a number of cells. -/
def cut (room : Nat) (cs : List Char) : List Char := cutGraphemes room (graphemes cs)

/-- Characters with blanks behind them up to a number of cells. -/
def padded (room : Nat) (cs : List Char) : List Char := cs ++ List.replicate (room - width cs) ' '

end VectorLint.Terminal
