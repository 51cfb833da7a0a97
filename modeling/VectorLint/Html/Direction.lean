import VectorLint.Html.Basic
import VectorLint.Text.Direction

/-!
# The direction of elements

An element of HTML is written from left to right or from right to left, as its attribute says. One
that leaves it to its text takes the direction of the first letter in it, and one that says nothing
takes that of the element around it; the outermost element is written from left to right.
-/

namespace VectorLint.Html

open Markup (Node Tag)
open Text (Direction)

/-- What the attribute for the direction says. -/
inductive Wish where
  | fixed (d : Direction)
  /-- The text decides. -/
  | auto
  deriving DecidableEq, Repr

/-- What an element says about its direction. -/
def wish? (t : Tag) : Option Wish :=
  match small ((t.get? "dir").getD "") with
  | "ltr" => some (.fixed .leftToRight)
  | "rtl" => some (.fixed .rightToLeft)
  | "auto" => some .auto
  | _ => none

/-- Whether the text of an element has no say in the direction of the elements around it. -/
def isSetApart (t : Tag) : Bool :=
  ["bdi", "script", "style", "textarea", "iframe"].contains t.name || !isElement t
    || (wish? t).isSome

mutual

/-- The direction of the first letter inside a node that has one. -/
def directionOfNode? : Node → Option Direction
  | .element t cs => if isSetApart t then none else directionOfNodes? cs
  | .text s => Text.firstDirection? s
  | .remark => none

/-- The direction of the first letter inside nodes that has one. -/
def directionOfNodes? : List Node → Option Direction
  | [] => none
  | n :: ns => (directionOfNode? n).orElse fun _ ↦ directionOfNodes? ns

end

/-- The text that a field for text holds, if an element is one. -/
def fieldText? (p : Place) : Option String :=
  if p.tag.name = "textarea" then some (String.join (ownTexts p))
  else if p.tag.name = "input"
      && ["text", "search", "tel", "url", "email"].contains (small (value p "type")) then
    some (value p "value")
  else none

/-- The direction that an element has by itself: what it says, or what its text says if that
decides. -/
def ownDirection? (p : Place) : Option Direction :=
  match wish? p.tag with
  | some (.fixed d) => some d
  | some .auto =>
    match fieldText? p with
    | some text =>
      if text = "" then none else some ((Text.firstDirection? text).getD .leftToRight)
    | none => directionOfNodes? p.nodes
  | none => if p.tag.name = "bdi" then directionOfNodes? p.nodes else none

/-- Whether a place is the outermost element of a document, perhaps of one in a frame. -/
def isOutermost (p : Place) : Bool := p.isRoot || (p.parent?.any fun q ↦ isFrame q.tag)

/-- The direction of a place, if it is an element of HTML. -/
def direction? : Place → Option Direction
  | .document _ => none
  | .child parent before t cs after =>
    let p : Place := .child parent before t cs after
    let isTelephone := t.name = "input" && small (value p "type") = "tel" && wish? t = none
    if !isElement t then none
    else if isOutermost p && wish? t = none then some .leftToRight
    else if isTelephone then some .leftToRight
    else
      match ownDirection? p with
      | some d => some d
      | none =>
        if isOutermost p then some .leftToRight
        else if isFrame parent.tag then none
        else direction? parent

end VectorLint.Html
