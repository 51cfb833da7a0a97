import VectorLint.Markup.Move
import VectorLint.Markup.Writing

/-!
# References

A reference stands for a character: it names one of five predefined entities or gives a character's
number in decimal or hexadecimal digits. It may also name an entity that is not predefined, which
has no character here.
-/

namespace VectorLint.Markup

/-- A reference, without its `&` and `;`. -/
inductive Reference where
  | entity (name : String)
  | number (n : Nat)
  deriving DecidableEq, Repr

/-- The character of a predefined entity. -/
def predefined? : String → Option Char
  | "lt" => some '<'
  | "gt" => some '>'
  | "amp" => some '&'
  | "quot" => some '"'
  | "apos" => some '\''
  | _ => none

/-- The character with a number, if it may stand in a document. -/
def numbered? (n : Nat) : Option Char :=
  if h : n.isValidChar then
    let c : Char := Char.ofNatAux n h
    if isLegal c then some c else none
  else none

/-- What has been read of a reference behind its `&`. -/
inductive Reference.Start where
  | empty
  | name (read : List Char)
  | hash
  | decimal (n : Nat)
  | hexMark
  | hexadecimal (n : Nat)
  deriving DecidableEq, Repr

/-- The value of a hexadecimal digit. -/
def hexDigit? (c : Char) : Option Nat :=
  if c.isDigit then some (c.toNat - '0'.toNat)
  else if 'a' ≤ c && c ≤ 'f' then some (c.toNat - 'a'.toNat + 10)
  else if 'A' ≤ c && c ≤ 'F' then some (c.toNat - 'A'.toNat + 10)
  else none

/-- The next character of a reference. -/
def Reference.Start.step (w : Writing) (s : Reference.Start) (c : Char) :
    Move Reference.Start Reference :=
  match s with
  | .empty =>
    if w.isNameStart c then .more (.name [c]) else if c = '#' then .more .hash else .invalid
  | .name read =>
    if w.isName c then .more (.name (c :: read))
    else if c = ';' then .done (.entity (String.ofList read.reverse))
    else .invalid
  | .hash =>
    if c = 'x' then .more .hexMark
    else if c.isDigit then .more (.decimal (c.toNat - '0'.toNat))
    else .invalid
  | .decimal n =>
    if c.isDigit then .more (.decimal (10 * n + (c.toNat - '0'.toNat)))
    else if c = ';' then .done (.number n)
    else .invalid
  | .hexMark =>
    match hexDigit? c with
    | some d => .more (.hexadecimal d)
    | none => .invalid
  | .hexadecimal n =>
    match hexDigit? c with
    | some d => .more (.hexadecimal (16 * n + d))
    | none => if c = ';' then .done (.number n) else .invalid

/-- A part of a value: a character that stands for itself, or a reference with the place of its
`&`. -/
inductive Piece where
  | char (c : Char)
  | reference (r : Reference) (offset : Nat)
  deriving DecidableEq, Repr

end VectorLint.Markup
