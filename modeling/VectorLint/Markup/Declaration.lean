import VectorLint.Markup.Character

/-!
# The declaration of a document

A document may begin with a declaration that gives its version and may give its encoding and say
whether it stands alone, in this order. Each is written like an attribute whose value consists of
ASCII letters, digits, full stops, hyphens and underscores. The version is not looked at.
-/

namespace VectorLint.Markup

/-- What the declaration of a document says. The encoding comes with the place of its name. -/
structure Declaration where
  encoding : Option (String × Nat)
  standalone : Bool
  deriving DecidableEq, Repr

/-- One item of a declaration, with the places of its name and value, and the text behind it with
its place. -/
structure Declaration.Item where
  name : List Char
  nameOffset : Nat
  value : List Char
  valueOffset : Nat
  rest : List Char
  restOffset : Nat
  deriving Repr

namespace Declaration

/-- Whether a character may stand in a value. -/
def isValue (c : Char) : Bool := c.isAlphanum || c == '.' || c == '-' || c == '_'

/-- Whether a character belongs to a name: it is ASCII, no white space and no equals sign. -/
def isKey (c : Char) : Bool := c.toNat < 0x80 && !isSpace c && c != '='

/-- The next item of a declaration whose text `cs` stands at `offset`. There is none if only white
space follows; an error is the place where no item can be read on. -/
def item? (offset : Nat) (cs : List Char) : Except Nat (Option Item) :=
  let spaces := cs.takeWhile isSpace
  let text := cs.drop spaces.length
  let start := offset + spaces.length
  if text.isEmpty then .ok none
  else if spaces.isEmpty then .error offset
  else
    let name := text.takeWhile isKey
    let behindName := text.drop name.length
    let gap := behindName.takeWhile isSpace
    let equals := start + name.length + gap.length
    match behindName.drop gap.length with
    | '=' :: behindEquals =>
      if name.isEmpty && gap.isEmpty then .error start
      else
        let gap := behindEquals.takeWhile isSpace
        let quoted := equals + 1 + gap.length
        match behindEquals.drop gap.length with
        | q :: text =>
          if q != '"' && q != '\'' then .error quoted
          else
            let value := text.takeWhile isValue
            let stop := quoted + 1 + value.length
            match text.drop value.length with
            | c :: rest =>
              if c = q then .ok (some ⟨name, start, value, quoted + 1, rest, stop + 1⟩)
              else .error stop
            | [] => .error stop
        | [] => .error quoted
    | _ => .error equals

/-- Whether the declaration says that the document stands alone. An error is the place of what is
neither `yes` nor `no`, or of what follows it. -/
def standalone? (i : Item) : Except Nat Bool :=
  if i.name != "standalone".toList then .error i.nameOffset
  else if i.value != "yes".toList && i.value != "no".toList then .error i.valueOffset
  else
    let spaces := i.rest.takeWhile isSpace
    if (i.rest.drop spaces.length).isEmpty then .ok (i.value == "yes".toList)
    else .error (i.restOffset + spaces.length)

/-- What follows the version. -/
def afterVersion (offset : Nat) (cs : List Char) : Except Nat Declaration := do
  match ← item? offset cs with
  | none => return { encoding := none, standalone := false }
  | some i =>
    if i.name = "encoding".toList then
      if !(i.value.head?.any Char.isAlpha) then .error i.valueOffset
      let encoding := (String.ofList i.value, i.valueOffset)
      match ← item? i.restOffset i.rest with
      | none => return { encoding, standalone := false }
      | some i => return { encoding, standalone := ← standalone? i }
    else return { encoding := none, standalone := ← standalone? i }

/-- What a declaration says whose text, behind its target, is `cs` and stands at `offset`. An error
is the place where it is not well-formed. -/
def read (offset : Nat) (cs : List Char) : Except Nat Declaration := do
  match ← item? offset cs with
  | none => .error offset
  | some i =>
    if i.name = "version".toList then afterVersion i.restOffset i.rest
    else .error i.nameOffset

/-- The text up to the first `?>`, if all its characters are legal. -/
def upToEnd : List Char → Option (List Char)
  | [] => none
  | '?' :: '>' :: _ => some []
  | c :: cs => if isLegal c then (upToEnd cs).map (c :: ·) else none

/-- The declaration that the text `cs` begins with, behind a byte order mark or not, if it is
well-formed. -/
def ofText? (cs : List Char) : Option Declaration :=
  let (offset, cs) := match cs with
    | '\ufeff' :: cs => (1, cs)
    | cs => (0, cs)
  match cs with
  | '<' :: '?' :: 'x' :: 'm' :: 'l' :: body => do
    if !(body.head?.any fun c ↦ isSpace c || c == '?') then none
    (read (offset + 5) (← upToEnd body)).toOption
  | _ => none

/-- The number of characters up to the first `?>` and with it. -/
def size : List Char → Nat
  | '?' :: '>' :: _ => 2
  | _ :: cs => size cs + 1
  | [] => 0

end Declaration

end VectorLint.Markup
