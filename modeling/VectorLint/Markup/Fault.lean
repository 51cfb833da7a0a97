/-!
# Faults of markup

Why markup is refused, and where. A place in a text is its number of characters from the start;
messages give the line, counted from one, and the column, counted from zero, where a carriage
return, a line feed and the two in this order each end one line.

Three kinds of fault are kept apart, since a reader of the message is told which it is: markup that
is not well-formed, markup that declares an entity, and octets in a character set that is not
supported.
-/

namespace VectorLint.Markup

/-- What is wrong where markup is not well-formed. -/
inductive Problem where
  | noElement
  | unclosedToken
  | invalidToken
  | cutCharacter
  | mismatchedTag
  | duplicateAttribute
  | contentAfterRoot
  | undefinedEntity
  | invalidCharacterNumber
  | unclosedCharacterData
  | misplacedDeclaration
  | malformedDeclaration
  | wrongEncoding
  | unusableEncoding
  | unboundName
  | undeclaredName
  | reservedXml
  | reservedXmlns
  | reservedNamespace
  | grammar
  | parameterEntity
  | publicIdentifier
  deriving DecidableEq, Repr

/-- The wording of a problem. -/
def Problem.wording : Problem → String
  | .noElement => "no element found"
  | .unclosedToken => "unclosed token"
  | .invalidToken => "not well-formed (invalid token)"
  | .cutCharacter => "partial character"
  | .mismatchedTag => "mismatched tag"
  | .duplicateAttribute => "duplicate attribute"
  | .contentAfterRoot => "junk after document element"
  | .undefinedEntity => "undefined entity"
  | .invalidCharacterNumber => "reference to invalid character number"
  | .unclosedCharacterData => "unclosed CDATA section"
  | .misplacedDeclaration => "XML or text declaration not at start of entity"
  | .malformedDeclaration => "XML declaration not well-formed"
  | .wrongEncoding => "encoding specified in XML declaration is incorrect"
  | .unusableEncoding => "unknown encoding"
  | .unboundName => "unbound prefix"
  | .undeclaredName => "must not undeclare prefix"
  | .reservedXml =>
    "reserved prefix (xml) must not be undeclared or bound to another namespace name"
  | .reservedXmlns => "reserved prefix (xmlns) must not be declared or undeclared"
  | .reservedNamespace => "prefix must not be bound to one of the reserved namespace names"
  | .grammar => "syntax error"
  | .parameterEntity => "illegal parameter entity reference"
  | .publicIdentifier => "illegal character(s) in public id"

/-- Why an encoding that is known by its name reads nothing. -/
inductive Refusal where
  /-- It is there to read nothing. -/
  | undefined
  /-- It reads no octets that have to be replaced. -/
  | strict
  /-- It reads ASCII alone. -/
  | ascii
  deriving DecidableEq, Repr

/-- Why markup is refused. -/
inductive Fault where
  /-- The markup is not well-formed at a place. -/
  | malformed (problem : Problem) (offset : Nat)
  /-- An entity is referred to that may be declared where it is not looked for. -/
  | unreadEntity (name : String) (offset : Nat)
  /-- An entity is declared. -/
  | entityDeclared (name : String) (systemId publicId : Option String)
  /-- The declared character set is not known. -/
  | unknownCharset (name : String)
  /-- The declared encoding is not one of texts. -/
  | notTextual (name : String)
  /-- The declared character set takes more than one octet for a character. -/
  | wideCharset
  /-- The declared encoding reads nothing. -/
  | refused (name : String) (r : Refusal)
  deriving DecidableEq, Repr

/-- The number of the line, from one, and the column, from zero, behind the characters `cs` when
the first of them stands at the given line and column. -/
def advance (line column : Nat) (afterReturn : Bool) : List Char → Nat × Nat
  | [] => (line, column)
  | c :: cs =>
    if c = '\r' then advance (line + 1) 0 true cs
    else if c = '\n' then
      if afterReturn then advance line 0 false cs else advance (line + 1) 0 false cs
    else advance line (column + 1) false cs

/-- The line and the column of a place in a text. -/
def lineAndColumn (cs : List Char) (offset : Nat) : Nat × Nat :=
  advance 1 0 false (cs.take offset)

/-- A place in a text as messages give it. -/
def place (cs : List Char) (offset : Nat) : String :=
  let (line, column) := lineAndColumn cs offset
  s!": line {line}, column {column}"

end VectorLint.Markup
