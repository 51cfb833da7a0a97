import VectorLint.Markup.Reference

/-!
# Tags

A start tag has a name and attributes; it may at once be the end of its element. A name consists of
a local name, before which the short name of a namespace and a colon may stand. The value of an
attribute stands between quotes and is kept as the pieces that it is written with, since what it
denotes depends on declarations that the tag does not show.
-/

namespace VectorLint.Markup

/-- A name as it is written. -/
structure QName where
  space : Option String
  base : String
  deriving DecidableEq, Repr

/-- The text of a name. -/
def QName.text (n : QName) : String :=
  match n.space with
  | some s => s ++ ":" ++ n.base
  | none => n.base

/-- The name of an attribute, and its place. -/
structure Key where
  name : QName
  offset : Nat
  deriving DecidableEq, Repr

/-- An attribute as it is written. -/
structure RawAttribute extends Key where
  value : List Piece
  deriving DecidableEq, Repr

/-- A start tag as it is written. -/
structure StartTag where
  name : QName
  attributes : List RawAttribute
  isEmpty : Bool
  deriving DecidableEq, Repr

/-- What has been read of a name: the part before a colon, and the part read last, both with the
last character first. -/
structure NameStart where
  space : Option (List Char)
  read : List Char
  deriving DecidableEq, Repr

/-- A name of one character. -/
def NameStart.first (c : Char) : NameStart := ⟨none, [c]⟩

/-- The name with one more character, if it is then still a name. At most one colon may stand in a
name, between two characters that start one. -/
def NameStart.push? (w : Writing) (n : NameStart) (c : Char) : Option NameStart :=
  match n.read with
  | [] => if w.isNameStart c then some { n with read := [c] } else none
  | read =>
    if w.isName c then some { n with read := c :: read }
    else if c = ':' && n.space.isNone then some ⟨some read, []⟩
    else none

/-- The finished name; a colon may not end it. -/
def NameStart.finish? (n : NameStart) : Option QName :=
  match n.read with
  | [] => none
  | read => some ⟨n.space.map fun s ↦ String.ofList s.reverse, String.ofList read.reverse⟩

/-- The finished parts of a start tag: its name, and its attributes with the last one first. -/
structure OpenTag where
  name : QName
  attributes : List RawAttribute
  deriving DecidableEq, Repr

/-- The tag that ends here. -/
def OpenTag.close (t : OpenTag) (isEmpty : Bool) : StartTag :=
  ⟨t.name, t.attributes.reverse, isEmpty⟩

/-- The tag with one more attribute, whose pieces are given with the last one first. -/
def OpenTag.push (t : OpenTag) (key : Key) (pieces : List Piece) : OpenTag :=
  { t with attributes := { key with value := pieces.reverse } :: t.attributes }

/-- What has been read of a start tag. Pieces are kept with the last one first. -/
inductive StartTag.Start where
  | name (n : NameStart)
  /-- White space behind the name or a value. -/
  | gap (t : OpenTag)
  | key (t : OpenTag) (n : NameStart) (offset : Nat)
  /-- White space behind an attribute's name. -/
  | equals (t : OpenTag) (key : Key)
  /-- An equals sign, behind which white space may stand. -/
  | quote (t : OpenTag) (key : Key)
  | value (t : OpenTag) (key : Key) (quote : Char) (pieces : List Piece)
  | reference (t : OpenTag) (key : Key) (quote : Char) (pieces : List Piece) (start : Nat)
    (r : Reference.Start)
  /-- The quote behind a value. -/
  | closed (t : OpenTag)
  | slash (t : OpenTag)
  deriving DecidableEq, Repr

/-- A character behind a name or a value. -/
def OpenTag.between (t : OpenTag) (c : Char) : Move StartTag.Start StartTag :=
  if isSpace c then .more (.gap t)
  else if c = '>' then .done (t.close false)
  else if c = '/' then .more (.slash t)
  else .invalid

/-- The next character of a start tag, which stands at `offset`. -/
def StartTag.Start.step (w : Writing) (offset : Nat) (s : StartTag.Start) (c : Char) :
    Move StartTag.Start StartTag :=
  match s with
  | .name n =>
    match n.push? w c, n.finish? with
    | some n, _ => .more (.name n)
    | none, some q => OpenTag.between ⟨q, []⟩ c
    | none, none => .invalid
  | .gap t => if w.isNameStart c then .more (.key t (.first c) offset) else t.between c
  | .key t n start =>
    match n.push? w c, n.finish? with
    | some n, _ => .more (.key t n start)
    | none, some q =>
      if isSpace c then .more (.equals t ⟨q, start⟩)
      else if c = '=' then .more (.quote t ⟨q, start⟩)
      else .invalid
    | none, none => .invalid
  | .equals t k =>
    if isSpace c then .more (.equals t k)
    else if c = '=' then .more (.quote t k)
    else .invalid
  | .quote t k =>
    if isSpace c then .more (.quote t k)
    else if c = '"' || c = '\'' then .more (.value t k c [])
    else .invalid
  | .value t k q pieces =>
    if c = q then .more (.closed (t.push k pieces))
    else if c = '&' then .more (.reference t k q pieces offset .empty)
    else if c = '<' then .invalid
    else if isLegal c then .more (.value t k q (.char c :: pieces))
    else .invalid
  | .reference t k q pieces start r =>
    match r.step w c with
    | .more r => .more (.reference t k q pieces start r)
    | .done r => .more (.value t k q (.reference r start :: pieces))
    | .invalid => .invalid
  | .closed t => t.between c
  | .slash t => if c = '>' then .done (t.close true) else .invalid

/-- What has been read of an end tag behind `</`, with the last character first. -/
inductive EndTag where
  | empty
  | name (read : List Char)
  | gap (name : List Char)
  deriving DecidableEq, Repr

/-- The next character of an end tag. The finished tag is its name; since it has to agree with that
of a start tag, colons are not counted. -/
def EndTag.step (w : Writing) (s : EndTag) (c : Char) : Move EndTag String :=
  match s with
  | .empty => if w.isNameStart c then .more (.name [c]) else .invalid
  | .name read =>
    if w.isName c || c = ':' then .more (.name (c :: read))
    else if isSpace c then .more (.gap read)
    else if c = '>' then .done (String.ofList read.reverse)
    else .invalid
  | .gap read =>
    if isSpace c then .more (.gap read)
    else if c = '>' then .done (String.ofList read.reverse)
    else .invalid

end VectorLint.Markup
