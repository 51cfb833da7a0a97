import VectorLint.Text.Direction

/-!
# Selectors

A selector is a pattern for elements. It is a list of conditions that an element has to meet
together; some of them are about the element itself, and some about elements around it, for which
they hold selectors again. A query is a list of selectors of which an element has to match one.
-/

namespace VectorLint

/-- How the value of an attribute is compared with a text. -/
inductive Selector.Operator where
  | equals
  | beginsWith
  | endsWith
  | contains
  /-- The text is one of the words of the value. -/
  | hasWord
  /-- The value is the text, or the text and a hyphen begin it. -/
  | hasStem
  deriving DecidableEq, Repr

/-- A comparison of the value of an attribute. -/
structure Selector.Comparison where
  operator : Operator
  text : String
  ignoresCase : Bool
  /-- What surrounds the text may go over several lines. -/
  crossesLines : Bool
  deriving DecidableEq, Repr

/-- A test of an attribute: its name, the short name of its namespace or nothing, and perhaps a
comparison of its value. -/
structure Selector.AttributeTest where
  space : String
  name : String
  comparison : Option Comparison
  deriving DecidableEq, Repr

/-- A test of the number of an element among its siblings: the number is `offset` or that and a
multiple of `step`. -/
structure Selector.Nth where
  step : Int
  offset : Int
  /-- Only siblings with the same name count. -/
  sameName : Bool
  /-- The last sibling is the first to count. -/
  fromEnd : Bool
  deriving DecidableEq, Repr

/-- A test of the text inside an element, or of the texts right inside it: one of the given texts
occurs. -/
structure Selector.TextTest where
  own : Bool
  texts : List String
  deriving DecidableEq, Repr

/-- A condition that is only about elements of HTML. -/
inductive Selector.HtmlTest where
  /-- The element is known: its name is not one that an author made up. -/
  | defined
  /-- Nothing, or one line feed, is the text of the element. -/
  | blankText
  /-- The value of the field is in the range of the field, or out of it. -/
  | ranged (isInside : Bool)
  /-- The element is the first button of its form that sends it. -/
  | defaultButton
  /-- No radio button of the element's group is chosen. -/
  | groupUnset
  | direction (d : Text.Direction)
  deriving DecidableEq, Repr

/-- How another element lies to an element. -/
inductive Selector.Combinator where
  | descendant
  | child
  | sibling
  | adjacent
  deriving DecidableEq, Repr

mutual

/-- A selector. -/
inductive Selector where
  /-- Matches no element. -/
  | never
  | all (conditions : List Selector.Condition)

/-- A condition on an element. -/
inductive Selector.Condition where
  /-- The name of the element, with the short name of its namespace. A star stands for any. -/
  | tag (space : Option String) (name : String)
  | id (name : String)
  | className (name : String)
  | attribute (test : Selector.AttributeTest)
  /-- The element is the outermost one of its document; a frame has a document of its own. -/
  | root
  /-- The element is the outermost one of the document that is queried. -/
  | scope
  | empty
  | html (test : Selector.HtmlTest)
  /-- The element's number among its siblings; those that do not match one of `counted` are passed
  over, unless there is no such list. What is remembered about the test goes by `id`. -/
  | nth (id : Nat) (n : Selector.Nth) (onlyHtml : Bool) (counted : Option (List Selector))
  | texts (tests : List Selector.TextTest)
  /-- The language of the element is in one of the ranges of each list. -/
  | language (ranges : List (List String))
  /-- The element matches one of the selectors, or none of them. A list that is only for HTML
  matches nothing elsewhere, not even as a negation. -/
  | group (isNegated onlyHtml : Bool) (alternatives : List Selector)
  /-- Some element matches that has the element as its descendant, child or later sibling, or, in
  the other direction, that is one. What is remembered about it goes by `id`. -/
  | related (id : Nat) (isForward : Bool) (c : Selector.Combinator) (other : Selector)

end

/-- The rank of a condition: of the conditions on an element, those with a lower rank are looked at
first. -/
def Selector.Condition.rank : Selector.Condition → Nat
  | .tag .. => 0
  | .html .defined => 1
  | .root => 2
  | .scope => 3
  | .html .blankText => 4
  | .nth .. => 5
  | .empty => 6
  | .id _ => 7
  | .className _ => 8
  | .attribute _ => 9
  | .html (.ranged _) => 10
  | .language _ => 11
  | .group .. => 12
  | .related .. => 13
  | .html .defaultButton => 14
  | .html .groupUnset => 15
  | .html (.direction _) => 16
  | .texts _ => 17

mutual

/-- The number of conditions that a selector is made of. A condition that holds selectors counts
together with theirs. -/
def Selector.size : Selector → Nat
  | .never => 1
  | .all conditions => Selector.conditionSizes conditions

/-- The number of conditions that a condition is made of. One on a neighbour counts only as the
conditions on that, and one that is part of what a pseudo-class of HTML means does not count. -/
def Selector.Condition.size : Selector.Condition → Nat
  | .html _ => 0
  | .related _ _ _ other => other.size
  | .nth _ _ _ (some counted) => 1 + Selector.sizes counted
  | .group _ _ alternatives => 1 + Selector.sizes alternatives
  | _ => 1

/-- The number of conditions that conditions are made of. -/
def Selector.conditionSizes : List Selector.Condition → Nat
  | [] => 0
  | c :: conditions => c.size + Selector.conditionSizes conditions

/-- The number of conditions that selectors are made of. -/
def Selector.sizes : List Selector → Nat
  | [] => 0
  | s :: selectors => s.size + Selector.sizes selectors

end

/-- Whether a condition is a list of selectors. -/
def Selector.Condition.isGroup : Selector.Condition → Bool
  | .group .. => true
  | _ => false

/-- A selector of conditions, put in the order in which they are looked at. -/
def Selector.ofConditions (conditions : List Selector.Condition) : Selector :=
  .all ((List.range 18).flatMap fun r ↦ conditions.filter (·.rank = r))

/-- A query. -/
structure Query where
  alternatives : List Selector
  onlyHtml : Bool

end VectorLint
