import VectorLint.Markup.Character

/-!
# How characters are written

A document is read by characters, but a few rules depend on how the characters are written. One that
is written with a single unit, an octet or a pair of octets, is known at once. Of the others it is
only seen later what they are, so that any of them may begin an element where one may begin. In
UTF-16 and in ISO 8859-1 three signs of the first 256 count as letters.
-/

namespace VectorLint.Markup

/-- How the characters of a document are written. -/
inductive Writing where
  /-- UTF-8: with one to four octets. -/
  | octets
  /-- UTF-16: with one or two pairs of octets. -/
  | pairs
  /-- ISO 8859-1. -/
  | latin
  /-- Any other character set with one octet for a character. -/
  | single
  deriving DecidableEq, Repr

namespace Writing

/-- The number of units that a character is written with. -/
def size (w : Writing) (c : Char) : Nat :=
  match w with
  | .octets => c.utf8Size
  | .pairs => if c.toNat < 0x10000 then 1 else 2
  | .latin => 1
  | .single => 1

/-- Whether it is known at once what a character is. -/
def isPlain (w : Writing) (c : Char) : Bool :=
  match w with
  | .octets => c.toNat < 0x80
  | .pairs => c.toNat < 0x100
  | .latin => true
  | .single => true

/-- Whether the two ordinal signs and the micro sign are letters. -/
def hasLetterSigns : Writing → Bool
  | .octets => false
  | .pairs => true
  | .latin => true
  | .single => false

/-- The signs that may be letters. -/
def letterSigns : List Char := ['ª', 'µ', 'º']

/-- Whether a character starts a name. -/
def isNameStart (w : Writing) (c : Char) : Bool :=
  Markup.isNameStart c || (w.hasLetterSigns && letterSigns.contains c)

/-- Whether a character may stand in a name. -/
def isName (w : Writing) (c : Char) : Bool :=
  Markup.isName c || (w.hasLetterSigns && letterSigns.contains c)

/-- Whether a character may stand in the keyword of a declaration: an underscore, or a letter that
is known at once. -/
def isKeyword (w : Writing) (c : Char) : Bool := w.isPlain c && w.isNameStart c

/-- Whether a character behind `<` begins an element, in a place where other things may begin. -/
def beginsElement (w : Writing) (c : Char) : Bool :=
  if w.isPlain c then w.isNameStart c else w == .octets || isLegal c

end Writing

end VectorLint.Markup
