import VectorLint.Document.Basic
import VectorLint.Selector.Matching
import VectorLint.Selector.Reader

/-!
# Querying a document

A query selects the elements of a document that match it. Since it selects among the numbered
elements, what it finds is in document order and each element is found once.
-/

namespace VectorLint.Document

/-- What selectors need to know about a document. -/
def surroundings (d : Document) : Selector.Surroundings where
  namespaces := d.tree.namespaces
  isHtml := d.root?.any fun e ↦ Html.isElement e.place.tag
  staysInFrame := false

/-- The elements that match a query. They are looked at in document order. -/
def select (d : Document) (q : Query) : Except Failure (List Element) :=
  let surroundings := d.surroundings
  StateT.run' (d.elements.filterM fun e ↦ q.matchesAt surroundings e.place) .empty

/-- The elements that match a selector. -/
def find (d : Document) (selector : String) : Except Failure (List Element) := do
  d.select (← Query.ofText selector)

end VectorLint.Document
