import VectorLint.Markup.Tree

/-!
# Places in a tree

A selector looks from an element to the elements around it: to its parent, to its siblings, to what
is inside it. A place is an element together with all of its surroundings, so every such look is a
function of the place. The document itself is a place too, the parent of the root element; it has no
attributes, and its name is one that no element can have.
-/

namespace VectorLint

open Markup (Node Tag)

/-- A place: the document, or an element with its parent, its siblings before it with the nearest
first, and its siblings behind it. -/
inductive Place where
  | document (nodes : List Node)
  | child (parent : Place) (before : List Node) (tag : Tag) (children : List Node)
    (after : List Node)
  deriving Repr

namespace Place

/-- The tag that stands for the document. -/
def documentTag : Tag := ⟨"[document]", none, []⟩

/-- The name and the attributes of a place. -/
def tag : Place → Tag
  | document _ => documentTag
  | child _ _ t _ _ => t

/-- The nodes inside a place. -/
def nodes : Place → List Node
  | document nodes => nodes
  | child _ _ _ nodes _ => nodes

/-- The parent of an element. -/
def parent? : Place → Option Place
  | document _ => none
  | child p _ _ _ _ => some p

/-- Whether a place is the root element. -/
def isRoot : Place → Bool
  | child (document _) _ _ _ _ => true
  | _ => false

/-- The number of nodes before an element among those of its parent. -/
def number : Place → Nat
  | document _ => 0
  | child _ before _ _ _ => before.length

/-- Whether no node stands behind a place. -/
def isLast : Place → Bool
  | document _ => true
  | child _ _ _ _ after => after.isEmpty

/-- The numbers that lead from a place up to the document; they tell two places of one document
apart. -/
def address : Place → List Nat
  | document _ => []
  | child p before _ _ _ => before.length :: p.address

/-- The places around a place, the nearest first, the document last. -/
def ancestors : Place → List Place
  | document _ => []
  | child p _ _ _ _ => p :: p.ancestors

/-- The elements among the nodes `before`, the nearest first, when `after` stands behind them. -/
def backwards (parent : Place) (after : List Node) : List Node → List Place
  | [] => []
  | .element t cs :: before =>
    child parent before t cs after :: backwards parent (.element t cs :: after) before
  | n :: before => backwards parent (n :: after) before

/-- The elements among `nodes`, when `before` stands before them with the nearest first. -/
def forwards (parent : Place) (before : List Node) : List Node → List Place
  | [] => []
  | .element t cs :: after =>
    child parent before t cs after :: forwards parent (.element t cs :: before) after
  | n :: after => forwards parent (n :: before) after

/-- The siblings before an element, the nearest first. -/
def earlier : Place → List Place
  | document _ => []
  | child p before t cs after => backwards p (.element t cs :: after) before

/-- The siblings behind an element, the nearest first. -/
def later : Place → List Place
  | document _ => []
  | child p before t cs after => forwards p (.element t cs :: before) after

/-- The elements right inside a place. -/
def elements (p : Place) : List Place := forwards p [] p.nodes

mutual

/-- An element with all elements inside it, in document order; nothing for another node. -/
def ofNode (parent : Place) (before after : List Node) : Node → List Place
  | .element t cs =>
    let p := child parent before t cs after
    p :: ofNodes p [] cs
  | .text _ => []
  | .remark => []

/-- The elements among nodes and inside them, in document order. -/
def ofNodes (parent : Place) (before : List Node) : List Node → List Place
  | [] => []
  | n :: after => ofNode parent before after n ++ ofNodes parent (n :: before) after

end

/-- All elements inside a place, in document order. -/
def descendants (p : Place) : List Place := ofNodes p [] p.nodes

/-- The name of a node that is an element. -/
def nameOf? : Node → Option String
  | .element t _ => some t.name
  | _ => none

/-- The path of an element: the names from the root down, each with its number among the siblings of
that name. -/
def path : Place → String
  | document _ => ""
  | child p before t _ _ =>
    let number := (before.countP fun n ↦ nameOf? n = some t.name) + 1
    p.path ++ "/" ++ t.name ++ "[" ++ toString number ++ "]"

mutual

/-- The texts inside a node in document order, without those inside elements that are left out. -/
def textsOfNode (isOut : Tag → Bool) : Node → List String
  | .element t cs => if isOut t then [] else textsOfNodes isOut cs
  | .text s => [s]
  | .remark => []

/-- The texts inside nodes in document order, without those inside elements that are left out. -/
def textsOfNodes (isOut : Tag → Bool) : List Node → List String
  | [] => []
  | n :: ns => textsOfNode isOut n ++ textsOfNodes isOut ns

end

/-- The text inside a place without that inside elements that are left out. -/
def textOutside (isOut : Tag → Bool) (p : Place) : String :=
  if isOut p.tag then "" else String.join (textsOfNodes isOut p.nodes)

/-- All the text inside a place. -/
def text (p : Place) : String := p.textOutside fun _ ↦ false

/-- The texts right inside a place. -/
def ownTexts (p : Place) : List String :=
  p.nodes.filterMap fun
    | .text s => some s
    | _ => none

end Place

end VectorLint
