import VectorLint.Html.Basic

/-!
# Forms

The default button of a form is its first button that sends it. Radio buttons of one name in one
form are a group, in which none may be chosen. Where there is no form around a radio button, its
document takes the place of one.
-/

namespace VectorLint.Html

open Markup (Attribute)

/-- Whether an element is a form. -/
def isForm (p : Place) : Bool := p.tag.name = "form" && isElement p.tag

/-- The form around an element. -/
def form? (p : Place) : Option Place := (ancestors p).find? isForm

/-- The first button that sends a form, among elements in document order. Behind the beginning of
another form none is looked for. -/
def firstSender? : List Place → Option Place
  | [] => none
  | p :: rest =>
    if p.tag.name = "form" then none
    else if (p.tag.name = "input" || p.tag.name = "button") &&
        small (value p "type") = "submit" then
      some p
    else firstSender? rest

/-- Whether an element is the default button of the form around it. -/
def isDefaultButton (p : Place) : Bool :=
  match (form? p).bind fun form ↦ firstSender? (descendants form) with
  | some sender => sender.address = p.address
  | none => false

/-- The form around a radio button or what takes its place; nothing for one right inside a frame. -/
def group? (p : Place) : Option Place := (form? p).orElse fun _ ↦ (ancestors p).getLast?

/-- What attributes say about a button: that it is a radio button, that it has the name of a group,
and that it is chosen. -/
structure RadioMarks where
  isRadio : Bool
  isNamed : Bool
  isChosen : Bool

/-- The marks with those of one more attribute. -/
def RadioMarks.add (name : String) (m : RadioMarks) (a : Attribute) : RadioMarks :=
  let key := small a.name
  if key = "type" && small a.value = "radio" then { m with isRadio := true }
  else if key = "name" && a.value = name then { m with isNamed := true }
  else if key = "checked" then { m with isChosen := true }
  else m

/-- Whether an element is a chosen radio button of a name. -/
def isChosenRadio (name : String) (p : Place) : Bool :=
  let marks := p.tag.attributes.foldl (RadioMarks.add name) ⟨false, false, false⟩
  p.tag.name = "input" && marks.isRadio && marks.isNamed && marks.isChosen

/-- Whether no other radio button of the group of `p` is chosen. -/
def isGroupUnset (group : Place) (p : Place) : Bool :=
  !(descendants group).any fun q ↦
    q.address ≠ p.address && isChosenRadio (value p "name") q
      && (group? q).any (·.address = group.address)

end VectorLint.Html
