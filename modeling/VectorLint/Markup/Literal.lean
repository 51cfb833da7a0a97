import VectorLint.Markup.Value

/-!
# Literals of a document type

A document type holds texts between quotes: public identifiers, values that attributes have by
default, and values of entities. What may stand in them differs. References are read in the last
two; a value of an entity may also hold references to parameter entities, which are refused.
-/

namespace VectorLint.Markup.Literal

/-- Whether a character may stand in a public identifier. -/
def isPublic (c : Char) : Bool :=
  c.isAlphanum || c == ' ' || c == '\n' || c == '\r' || "-'()+,./:=?;!*#@$_%".toList.contains c

/-- The place of the first character that may not stand in a public identifier. -/
def publicFault? (offset : Nat) : List Char → Option Nat
  | [] => none
  | c :: cs => if isPublic c then publicFault? (offset + 1) cs else some offset

/-- A public identifier as it is shown, with single blanks for white space. -/
def publicText (cs : List Char) : String :=
  String.ofList (singleBlanks true (cs.map fun c ↦ if c == '\n' || c == '\r' then ' ' else c))

/-- What is being read in a literal. The places are those of the `&` and the percent sign. -/
inductive State where
  | text
  | reference (start : Nat) (r : Reference.Start)
  | percent (start : Nat)
  | parameter (start : Nat)

/-- The first fault of a literal that stands at `start`, whose remaining text is at `offset`. In the
value of an entity, `isEntity`, references to entities are not looked up. -/
def fault? (w : Writing) (isEntity isPartial : Bool) (start : Nat) (offset : Nat) (s : State) :
    List Char → Option Fault
  | [] =>
    match s with
    | .text => none
    | .reference mark _ => some (.malformed .invalidToken mark)
    | .percent mark => some (.malformed .invalidToken mark)
    | .parameter mark => some (.malformed .invalidToken mark)
  | c :: cs =>
    match s with
    | .text =>
      if c = '&' then fault? w isEntity isPartial start (offset + 1) (.reference offset .empty) cs
      else if isEntity && c = '%' then
        fault? w isEntity isPartial start (offset + 1) (.percent offset) cs
      else if !isEntity && c = '<' then some (.malformed .invalidToken offset)
      else fault? w isEntity isPartial start (offset + 1) .text cs
    | .reference mark r =>
      match r.step w c with
      | .more r => fault? w isEntity isPartial start (offset + 1) (.reference mark r) cs
      | .invalid => some (.malformed .invalidToken offset)
      | .done r =>
        match r.fault? (isEntity || isPartial) start mark with
        | some f => some f
        | none => fault? w isEntity isPartial start (offset + 1) .text cs
    | .percent mark =>
      if w.isNameStart c then fault? w isEntity isPartial start (offset + 1) (.parameter mark) cs
      else some (.malformed .invalidToken offset)
    | .parameter mark =>
      if c = ';' then some (.malformed .parameterEntity mark)
      else if w.isName c then fault? w isEntity isPartial start (offset + 1) (.parameter mark) cs
      else some (.malformed .invalidToken offset)

/-- The pieces of a literal without a fault. -/
def pieces (w : Writing) (s : Option Reference.Start) : List Char → List Piece
  | [] => []
  | c :: cs =>
    match s with
    | none => if c = '&' then pieces w (some .empty) cs else .char c :: pieces w none cs
    | some r =>
      match r.step w c with
      | .more r => pieces w (some r) cs
      | .done r => .reference r 0 :: pieces w none cs
      | .invalid => pieces w none cs

/-- Whether a reference that is not finished would be one to a number. -/
def isNumeric : Reference.Start → Bool
  | .empty => false
  | .name _ => false
  | _ => true

/-- The piece of a reference that need not stand for a legal character. There is none for the number
zero, and one that is too large stands for `U+FFFD`. -/
def salvagedPiece? (r : Reference) : Option Piece :=
  match r with
  | .number 0 => none
  | .number n =>
    if (numbered? n).isSome then some (.reference r 0)
    else some (.char (if n.isValidChar then Char.ofNat n else '\ufffd'))
  | .entity _ => some (.reference r 0)

/-- The pieces of a literal that may have faults. A reference to an entity that is not finished is
left out; with one to a number, nothing can be read of the literal. -/
def salvaged? (w : Writing) (s : Option Reference.Start) : List Char → Option (List Piece)
  | [] => if s.any isNumeric then none else some []
  | c :: cs =>
    let plain (_ : Unit) : Option (List Piece) :=
      if c = '&' then salvaged? w (some .empty) cs
      else (salvaged? w none cs).map (.char c :: ·)
    match s with
    | none => plain ()
    | some r =>
      match r.step w c with
      | .more r => salvaged? w (some r) cs
      | .done r => do
        let piece ← salvagedPiece? r
        return piece :: (← salvaged? w none cs)
      | .invalid => if isNumeric r then none else plain ()

end VectorLint.Markup.Literal
