import VectorLint.Html.Basic
import VectorLint.Text.Lowercase

/-!
# Languages

The language of an element is given by an attribute of the element or of the nearest element around
it that has one. A language tag and a range of languages consist of subtags between hyphens. A range
matches a tag if its subtags occur in the tag in their order, where longer subtags in between may be
passed over, and if both begin with the same subtag. A star at the beginning of a range matches any
subtag, and stars further on are dropped.

Where no attribute gives a language, the head of a document in a frame may do so.
-/

namespace VectorLint.Selector.Language

/-- The subtags of a text: what stands between hyphens, one after the other. -/
def subtags (cs : List Char) : List (List Char) :=
  match cs with
  | [] => [[]]
  | '-' :: cs => [] :: subtags cs
  | c :: cs =>
    match subtags cs with
    | first :: rest => (c :: first) :: rest
    | [] => [[c]]

/-- Whether a text ends here, or with the line feed that follows. -/
def isEnd (cs : List Char) : Bool := cs.isEmpty || cs = ['\n']

/-- The text behind stars that follow a dropped one. Each is followed by a hyphen or ends the text;
`fuel` bounds their number. -/
def dropStars : Nat → List Char → List Char
  | 0, cs => cs
  | fuel + 1, cs =>
    match cs with
    | '*' :: '-' :: cs => dropStars fuel cs
    | '*' :: cs => if isEnd cs then cs else '*' :: cs
    | cs => cs

/-- A range without the stars behind its first subtag. A star at the very end leaves an empty
subtag. -/
def withoutStars : Nat → List Char → List Char
  | 0, cs => cs
  | fuel + 1, cs =>
    match cs with
    | '-' :: '*' :: '-' :: cs => '-' :: withoutStars fuel (dropStars cs.length cs)
    | '-' :: '*' :: cs => '-' :: if isEnd cs then cs else withoutStars fuel ('*' :: cs)
    | c :: cs => c :: withoutStars fuel cs
    | [] => []

/-- Whether the later subtags of a range occur among those of a tag, in their order. An empty subtag
of a range matches nothing, and a subtag of one character is not passed over. -/
def occur : List (List Char) → List (List Char) → Bool
  | [], _ => true
  | _ :: _, [] => false
  | [] :: _, _ :: _ => false
  | r :: range, s :: tag =>
    if r = s then occur range tag
    else if s.length = 1 then false
    else occur (r :: range) tag

/-- Whether a range matches a language tag. -/
def matchesRange (range tag : String) : Bool :=
  let cs := range.toList
  let ranges := subtags (Text.lowercase (String.ofList (withoutStars cs.length cs))).toList
  let tags := subtags (Text.lowercase tag).toList
  match ranges, tags with
  | [[]], [[]] => true
  | r :: ranges, s :: tags =>
    let first := if r = ['*'] then !(tags.isEmpty && s.isEmpty) else r = s
    first && occur ranges tags
  | _, _ => false

/-- The language that an element gives itself. Elements of HTML have an attribute of their own for
it. -/
def own? (p : Place) : Option String :=
  let isHtml := Html.isElement p.tag
  let given := p.tag.attributes.find? fun a ↦
    if isHtml then a.name = "lang"
    else a.namespaceName = some Markup.xmlNamespace && a.localName = "lang"
  given.map (·.value)

/-- The language given by the nearest place that gives one. An empty one counts only if no other
follows. -/
def nearest? (found : Option String) : List Place → Option String
  | [] => found
  | p :: rest =>
    match own? p with
    | some "" => nearest? (some "") rest
    | some tag => some tag
    | none => nearest? found rest

/-- The language that a place has from the attributes of the elements around it. In HTML, what is
around the frame of an element has no say in it. -/
def of? (isHtml : Bool) (p : Place) : Option String :=
  nearest? none (p :: if isHtml then Html.ancestors p else p.ancestors)

/-! ## Languages that a head gives -/

/-- The outermost place of the document that a place is in. -/
def outermost (p : Place) : Place := ((p :: Html.ancestors p).getLast?).getD p

/-- What the attributes of an element say about the language of a document: that the element is
about it, and what it says. -/
structure Note where
  isLanguage : Bool
  content : String

/-- The language that attributes give, which are read from the first one until it is known. -/
def given? (n : Note) : List Markup.Attribute → Option String
  | [] => none
  | a :: rest =>
    let key := Html.small a.name
    let isLanguage :=
      n.isLanguage || (key = "http-equiv" && Html.small a.value = "content-language")
    let content := if key = "content" then a.value else n.content
    if isLanguage && content ≠ "" then some content else given? ⟨isLanguage, content⟩ rest

/-- The first element of HTML with some name right inside a place. -/
def child? (name : String) (p : Place) : Option Place :=
  (Html.elements p).find? fun q ↦ q.tag.name = name && Html.isElement q.tag

/-- The head of a document in a frame. The outermost element has to be one more `html` around the
one with the head. -/
def head? (root : Place) : Option Place :=
  if root.tag.name = "html" && Html.isElement root.tag then
    (child? "html" root).bind (child? "head")
  else none

/-- The language that a head gives. -/
def ofHead? (head : Place) : Option String :=
  head.elements.findSome? fun q ↦
    if q.tag.name = "meta" then given? ⟨false, ""⟩ q.tag.attributes else none

end VectorLint.Selector.Language
