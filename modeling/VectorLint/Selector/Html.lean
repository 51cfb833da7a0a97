import VectorLint.Selector.Basic

/-!
# Pseudo-classes of HTML

What a pseudo-class says about the controls, links and texts of HTML is said by selectors. Within
them, the short name `html` stands for the namespace of HTML. A pseudo-class is a list of which one
selector has to match; outside HTML none does.
-/

namespace VectorLint.Selector.Html

/-- An element of HTML with some name; a star stands for any. -/
def element (name : String) : Condition := .tag (some "html") name

/-- One of several selectors matches. -/
def anyOf (selectors : List (List Condition)) : Condition :=
  .group false false (selectors.map ofConditions)

/-- None of several selectors matches. -/
def noneOf (selectors : List (List Condition)) : Condition :=
  .group true false (selectors.map ofConditions)

/-- There is an attribute. -/
def has (name : String) : Condition := .attribute ⟨"", name, none⟩

/-- An attribute has a value. -/
def hasValue (name value : String) : Condition :=
  .attribute ⟨"", name, some ⟨.equals, value, false, true⟩⟩

/-- Selectors for elements with some names. -/
def names (ns : List String) : List (List Condition) := ns.map fun n ↦ [.tag none n]

/-- Selectors for elements of some types. -/
def types (ts : List String) : List (List Condition) := ts.map fun t ↦ [hasValue "type" t]

/-- Some element around it matches. -/
def inside (c : Combinator) (around : List Condition) : Condition :=
  .related 0 false c (ofConditions around)

/-- A pseudo-class whose selectors are given. -/
def pseudoClass (selectors : List (List Condition)) : Condition :=
  .group false true (selectors.map ofConditions)

/-- A link. -/
def link : Condition := pseudoClass [[element "*", anyOf (names ["a", "area"]), has "href"]]

/-- A chosen button or option. -/
def checked : Condition :=
  let button (type : String) : List Condition := [.tag none "input", hasValue "type" type]
  pseudoClass [
    [element "*", anyOf [button "checkbox", button "radio"], has "checked"],
    [element "option", has "selected"]]

/-- What is chosen at first, and the button that sends a form by default. -/
def default : Condition :=
  pseudoClass [
    [checked],
    [element "*", anyOf (names ["button", "input"]), hasValue "type" "submit",
      inside .descendant [element "form"], .html .defaultButton]]

/-- A control of which it is open whether it is on. -/
def indeterminate : Condition :=
  let radio : List Condition := [element "input", hasValue "type" "radio"]
  pseudoClass [
    [element "input", hasValue "type" "checkbox", has "indeterminate"],
    radio ++ [anyOf [[noneOf [[has "name"]]], [hasValue "name" ""]], noneOf [[has "checked"]]],
    [element "progress", noneOf [[has "value"]]],
    radio ++ [has "name", noneOf [[hasValue "name" ""]], noneOf [[has "checked"]],
      .html .groupUnset]]

/-- A control that does not depend on the list that it is in. -/
def controls : List (List Condition) :=
  [.tag none "input", noneOf [[hasValue "type" "hidden"]]]
    :: names ["button", "select", "textarea", "fieldset"]

/-- All that can be disabled. Groups of controls are named once more; that makes the list longer by
one, which counts where the size of a query is limited. -/
def switchable : List (List Condition) := controls ++ names ["optgroup", "option", "fieldset"]

/-- A disabled control, or one inside something disabled. What is in the first legend of a disabled
group of controls is not disabled with it. -/
def disabled : Condition :=
  let group : List Condition := [element "fieldset", has "disabled"]
  let firstLegend : List Condition :=
    [.tag none "legend", .nth 0 ⟨0, 1, true, false⟩ false none]
  pseudoClass [
    [element "*", anyOf switchable, has "disabled"],
    [element "option", inside .child [element "optgroup", has "disabled"]],
    [element "*", anyOf controls, inside .child group],
    [element "*", anyOf controls,
      inside .descendant [element "*", noneOf [firstLegend], inside .child group]]]

/-- A control that is not disabled. -/
def enabled : Condition := pseudoClass [[element "*", anyOf switchable, noneOf [[disabled]]]]

/-- What a form asks for. -/
def fields : Condition := anyOf (names ["input", "select", "textarea"])

/-- A field that has to be filled in. -/
def required : Condition := pseudoClass [[element "*", fields, has "required"]]

/-- A field that need not be filled in. -/
def optional : Condition := pseudoClass [[element "*", fields, noneOf [[has "required"]]]]

/-- An input without a type, or with an empty one. -/
def untyped : List (List Condition) := [[noneOf [[has "type"]]], [hasValue "type" ""]]

/-- A field that shows what it is for, since nothing is written in it. -/
def placeholderShown : Condition :=
  let holder : List Condition := [has "placeholder", noneOf [[hasValue "placeholder" ""]]]
  let texts := ["text", "search", "url", "tel", "email", "password", "number"]
  pseudoClass [
    element "input" :: anyOf (untyped ++ types texts) :: holder
      ++ [anyOf [[noneOf [[has "value"]]], [hasValue "value" ""]]],
    element "textarea" :: holder ++ [.html .blankText]]

/-- What a user can write in. -/
def readWrite : Condition :=
  let written :=
    ["date", "datetime-local", "email", "month", "number", "password", "search", "tel", "text",
      "time", "url", "week"]
  let isEditable : Condition :=
    .attribute ⟨"", "contenteditable", some ⟨.equals, "true", true, true⟩⟩
  pseudoClass [
    [element "*",
      anyOf [[.tag none "textarea"], [.tag none "input", anyOf (untyped ++ types written)]],
      noneOf [[has "readonly"], [disabled]]],
    [element "*", anyOf [[hasValue "contenteditable" ""], [isEditable]]]]

/-- What a user cannot write in. -/
def readOnly : Condition := pseudoClass [[element "*", noneOf [[readWrite]]]]

/-- A field with bounds, whose value is between them or is not. -/
def ranged (isInside : Bool) : Condition :=
  let bounded := ["date", "month", "week", "time", "datetime-local", "number", "range"]
  pseudoClass [
    [element "input", anyOf (types bounded), anyOf [[has "min"], [has "max"]],
      .html (.ranged isInside)]]

/-- What is open. -/
def opened : Condition :=
  pseudoClass [[element "*", anyOf (names ["details", "dialog"]), has "open"]]

/-- What makes no sound. -/
def muted : Condition := pseudoClass [[element "*", anyOf (names ["video", "audio"]), has "muted"]]

/-- The pseudo-classes of HTML. -/
def pseudoClasses : List (String × Condition) := [
  (":any-link", link), (":link", link), (":checked", checked), (":default", default),
  (":disabled", disabled), (":enabled", enabled), (":in-range", ranged true),
  (":indeterminate", indeterminate), (":muted", muted), (":open", opened), (":optional", optional),
  (":out-of-range", ranged false), (":placeholder-shown", placeholderShown),
  (":read-only", readOnly), (":read-write", readWrite), (":required", required)]

end VectorLint.Selector.Html
