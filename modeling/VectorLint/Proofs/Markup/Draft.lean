import VectorLint.Markup.Character

/-!
# Drafts

A draft is what somebody who writes markup has in mind: a tree of elements with names, attributes
and texts, but without namespaces, remarks or a document type. Names and texts carry the proof that
they may stand in markup, so every draft can be written.

Markup leaves a choice of how to write a draft. A hand makes it, and what is said about drafts is
said for every hand. In one thing there is no choice: the characters that have a meaning in markup
and the quotes are written as references, and in the values of attributes so are those that separate
the parts of a tag, since as themselves they would be read as blanks.

The entries of a draft are its elements in the order in which they begin, each with its path. They
are told from the draft alone, without a word about how it is written or read.
-/

namespace VectorLint.Markup

/-! ## Names and texts -/

/-- A name without a colon, by the fourth edition of XML 1.0. The fifth edition has names of more
characters, which are not read. -/
structure LocalName where
  first : Char
  rest : List Char
  isNameStart_first : isNameStart first = true
  isName_rest : ∀ c ∈ rest, isName c = true

/-- The characters of a name. -/
def LocalName.chars (n : LocalName) : List Char := n.first :: n.rest

/-- The text of a name. -/
def LocalName.text (n : LocalName) : String := String.ofList n.chars

/-- A text that may stand in a document. -/
structure LegalText where
  chars : List Char
  isLegal_chars : ∀ c ∈ chars, isLegal c = true

/-- The text itself. -/
def LegalText.text (t : LegalText) : String := String.ofList t.chars

/-! ## Drafts -/

/-- An attribute that binds no namespace. -/
structure Draft.Attribute where
  name : LocalName
  value : LegalText
  name_ne : name.text ≠ "xmlns"

/-- Attributes of different names. -/
structure Draft.Attributes where
  list : List Draft.Attribute
  nodup : (list.map (·.name.text)).Nodup

/-- An element with what is in it, or a text. -/
inductive Draft where
  | element (name : LocalName) (attributes : Draft.Attributes) (content : List Draft)
  | text (t : LegalText)

/-- How a draft is written where there is a choice: which characters are written as references
although they need not be, and whether an element with nothing in it has an end tag. -/
structure Hand where
  refers : Char → Bool
  closesEmpty : Bool

/-- Whether a character has a meaning in markup, or is a quote. -/
def isMarkup (c : Char) : Bool := c == '&' || c == '<' || c == '>' || c == '"' || c == '\''

/-- A reference to a character, without its `&` and `;`: by its name if it is predefined, and else
by its number. -/
def referenceTo : Char → List Char
  | '&' => ['a', 'm', 'p']
  | '<' => ['l', 't']
  | '>' => ['g', 't']
  | '"' => ['q', 'u', 'o', 't']
  | '\'' => ['a', 'p', 'o', 's']
  | c => '#' :: Nat.toDigits 10 c.toNat

/-- A character as it is written, if some are written as references by choice. -/
def spelled (refers : Char → Bool) (c : Char) : List Char :=
  if isMarkup c || refers c then '&' :: referenceTo c ++ [';'] else [c]

/-- Whether a character is written as a reference in the value of an attribute, be it by choice. -/
def Hand.refersInValue (h : Hand) (c : Char) : Bool := isSpace c && c != ' ' || h.refers c

/-- An attribute as it is written, with the blank before it. -/
def Hand.attribute (h : Hand) (a : Draft.Attribute) : List Char :=
  ' ' :: a.name.chars ++ '=' :: '"' :: a.value.chars.flatMap (spelled h.refersInValue) ++ ['"']

namespace Draft

mutual

/-- A draft as it is written. -/
def written (h : Hand) : Draft → List Char
  | element n attributes content =>
    '<' :: n.chars ++ attributes.list.flatMap h.attribute ++
      if content.isEmpty && !h.closesEmpty then ['/', '>']
      else '>' :: writtenAll h content ++ '<' :: '/' :: n.chars ++ ['>']
  | text t => t.chars.flatMap (spelled h.refers)

/-- Drafts as they are written one behind the other. -/
def writtenAll (h : Hand) : List Draft → List Char
  | [] => []
  | t :: ts => t.written h ++ writtenAll h ts

end

/-! ## Entries -/

/-- What is known of an element: its name, its attributes, and the steps that lead to it from the
root down, each a name and a number among the siblings of this name. -/
structure Entry where
  name : String
  attributes : List (String × String)
  steps : List (String × Nat)
  deriving DecidableEq, Repr

/-- The path of an element. -/
def Entry.path (e : Entry) : String :=
  String.join (e.steps.map fun (name, number) ↦ "/" ++ name ++ "[" ++ toString number ++ "]")

/-- The names of attributes with their values. -/
def Attributes.pairs (attributes : Attributes) : List (String × String) :=
  attributes.list.map fun a ↦ (a.name.text, a.value.text)

/-- The name of an element. -/
def name? : Draft → Option String
  | element n _ _ => some n.text
  | text _ => none

mutual

/-- The elements of a draft, the first of which is the element itself. It stands behind siblings
with the names `earlier`, and some steps lead to its parent. -/
def entries (above : List (String × Nat)) (earlier : List String) : Draft → List Entry
  | element n attributes content =>
    let steps := above ++ [(n.text, earlier.count n.text + 1)]
    ⟨n.text, attributes.pairs, steps⟩ :: entriesOfAll steps [] content
  | text _ => []

/-- The elements of drafts that stand one behind the other. -/
def entriesOfAll (above : List (String × Nat)) (earlier : List String) : List Draft → List Entry
  | [] => []
  | t :: ts => t.entries above earlier ++ entriesOfAll above (t.name?.toList ++ earlier) ts

end

end Draft

end VectorLint.Markup
