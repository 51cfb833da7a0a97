import VectorLint.Document.Place

/-!
# Elements of HTML

An element is one of HTML if its namespace says so. A frame is an element that holds another
document: looks that do not leave the document of an element stop at the frame around it, and do not
enter frames inside it.
-/

namespace VectorLint.Html

open Markup (Tag)

/-- The namespace of HTML. -/
def namespaceName : String := "http://www.w3.org/1999/xhtml"

/-- Whether an element is one of HTML. -/
def isElement (t : Tag) : Bool := t.namespaceName = some namespaceName

/-- Whether an element holds another document. -/
def isFrame (t : Tag) : Bool := t.name = "iframe" && isElement t

/-- The parent of a place that is not a frame. -/
def parent? (p : Place) : Option Place := p.parent?.filter fun q ↦ !isFrame q.tag

/-- The places around a place up to the frame that holds its document, the nearest first. -/
def ancestors (p : Place) : List Place := p.ancestors.takeWhile fun q ↦ !isFrame q.tag

/-- The elements right inside a place; there are none in a frame. -/
def elements (p : Place) : List Place := if isFrame p.tag then [] else p.elements

/-- All elements inside a place but those inside frames, in document order. -/
def descendants (p : Place) : List Place :=
  if isFrame p.tag then []
  else
    p.descendants.filter fun q ↦
      let between := q.ancestors.length - p.ancestors.length - 1
      (q.ancestors.take between).all fun r ↦ !isFrame r.tag

/-- The text right inside a place; there is none in a frame. -/
def ownTexts (p : Place) : List String := if isFrame p.tag then [] else p.ownTexts

/-- The value of an attribute, or nothing written if there is none. -/
def value (p : Place) (name : String) : String := (p.tag.get? name).getD ""

/-- A text with its letters of ASCII made small. -/
def small (s : String) : String := s.map Char.toLower

end VectorLint.Html
