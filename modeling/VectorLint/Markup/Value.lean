import VectorLint.Markup.Fault
import VectorLint.Markup.Reference

/-!
# Values of attributes

A value is written as characters and references. It denotes the text in which each reference is its
character and each white space character that is written as itself is a blank, a carriage return
and a line feed together being one. White space that is written as a reference is kept. In a value
that is declared to be a list of names, blanks at the ends are dropped and others are single.
-/

namespace VectorLint.Markup

/-- The character a reference stands for, if it stands for one. -/
def Reference.char? : Reference → Option Char
  | .entity name => predefined? name
  | .number n => numbered? n

/-- The text that pieces denote. References that stand for no character are left out. -/
def Piece.denoted (afterReturn : Bool) : List Piece → List Char
  | [] => []
  | .reference r _ :: pieces => r.char?.toList ++ denoted false pieces
  | .char c :: pieces =>
    if c = '\n' && afterReturn then denoted false pieces
    else (if c = '\t' || c = '\n' || c = '\r' then ' ' else c) :: denoted (c = '\r') pieces

/-- A text without blanks at its ends and with single blanks between its words. -/
def singleBlanks (afterBlank : Bool) : List Char → List Char
  | [] => []
  | ' ' :: cs =>
    if afterBlank || cs.all (· == ' ') then singleBlanks true cs else ' ' :: singleBlanks true cs
  | c :: cs => c :: singleBlanks false cs

/-- The value of an attribute: a text, or a list of names. -/
def Piece.value (isText : Bool) (pieces : List Piece) : String :=
  let cs := denoted false pieces
  String.ofList (if isText then cs else singleBlanks true cs)

/-- Why a reference may not stand in a value that begins at `start`; its own place is `offset`. An
entity that is not predefined is refused unless `isPartial`: then it may be declared elsewhere. -/
def Reference.fault? (isPartial : Bool) (start offset : Nat) : Reference → Option Fault
  | .number n =>
    if (numbered? n).isSome then none else some (.malformed .invalidCharacterNumber offset)
  | .entity name =>
    if isPartial || (predefined? name).isSome then none
    else some (.malformed .undefinedEntity start)

/-- The first fault of the references in a value. -/
def Piece.fault? (isPartial : Bool) (start : Nat) (pieces : List Piece) : Option Fault :=
  pieces.findSome? fun
    | .char _ => none
    | .reference r offset => r.fault? isPartial start offset

end VectorLint.Markup
