import VectorLint.Html.Range
import VectorLint.Selector.Html
import VectorLint.Selector.Token

/-!
# Reading selectors

The tokens of selector text are read one after the other. What is open is a stack of lists: the
query itself, and inside it the list of each pseudo-class whose parenthesis is open. A list is read
from left to right: conditions are gathered for one element, a combinator sets them aside as the
neighbour of the next element, and a comma ends a selector. In the list of `:has` the direction is
the other way round, and a combinator may come first.
-/

namespace VectorLint.Selector

/-- Conditions on one element, the last first. -/
structure Draft where
  conditions : List Condition
  texts : List TextTest
  isNever : Bool

/-- No conditions. -/
def Draft.empty : Draft := ⟨[], [], false⟩

/-- The conditions with one more. -/
def Draft.push (d : Draft) (c : Condition) : Draft := { d with conditions := c :: d.conditions }

/-- The selector of the conditions together with one about a neighbour. -/
def Draft.finish (d : Draft) (neighbour : Option Condition) : Selector :=
  if d.isNever then .never
  else
    let texts := if d.texts.isEmpty then [] else [.texts d.texts]
    .ofConditions (d.conditions.reverse ++ texts ++ neighbour.toList)

/-- What a list is read for. -/
inductive Purpose where
  /-- The query itself. -/
  | query
  /-- The list of `:is` and its like. -/
  | group (isNegated : Bool)
  /-- The list of `:has`. -/
  | has
  /-- The siblings that count, for the test at a place. -/
  | counted (place : Nat) (n : Nth)
  /-- The list of a pseudo-class that matches nothing. -/
  | nothing
  deriving DecidableEq, Repr

/-- A combinator and the place where it stands. -/
structure Link where
  place : Nat
  combinator : Combinator

/-- A list of selectors that is being read. -/
structure Frame where
  purpose : Purpose
  /-- Empty places in the list are no fault. -/
  forgives : Bool
  draft : Draft
  /-- Whether conditions were read since the last combinator or comma. -/
  hasSelector : Bool
  /-- The elements to the left, with the combinator behind them. -/
  left : Option (Link × Selector)
  /-- In the list of `:has`, the elements so far with the combinators before them, the last first.
  -/
  chain : List (Link × Draft)
  /-- In the list of `:has`, the combinator before the next element. -/
  leading : Link
  /-- The finished selectors, the last first. -/
  done : List Selector
  onlyHtml : Bool
  /-- The place behind the last token. -/
  place : Nat
  /-- The number of conditions in the query so far. -/
  size : Nat

/-- The combinator that counts where none is written. -/
def Link.silent : Link := ⟨0, .descendant⟩

namespace Frame

/-- A list of which nothing has been read, in a query that has had `size` conditions so far. -/
def begin (purpose : Purpose) (forgives : Bool) (place size : Nat) : Frame :=
  ⟨purpose, forgives, .empty, false, none, [], .silent, [], false, place, size⟩

/-- The list with one more condition on the current element. -/
def push (f : Frame) (c : Condition) : Frame :=
  { f with draft := f.draft.push c, hasSelector := true }

/-- The list with a current element that cannot exist. -/
def deny (f : Frame) : Frame :=
  { f with draft := { f.draft with isNever := true }, hasSelector := true }

/-- The selector of the current element and those to the left of it. -/
def current (f : Frame) : Selector :=
  f.draft.finish (f.left.map fun (l, other) ↦ .related l.place false l.combinator other)

/-- The selector of an element that has the elements of a chain around it. -/
def ofChain : List (Link × Draft) → Option Condition
  | [] => none
  | (l, d) :: rest => some (.related l.place true l.combinator (d.finish (ofChain rest)))

/-- The chain with the current element. -/
def link (f : Frame) : List (Link × Draft) := (f.leading, f.draft) :: f.chain

/-- The selector of an element that has the elements read so far around it. -/
def holder (f : Frame) : Selector := .all (ofChain f.link.reverse).toList

/-- The combinator of a mark at a place. -/
def linkOf (place : Nat) (c : Char) : Link :=
  let combinator : Combinator :=
    if c = '>' then .child
    else if c = '~' then .sibling
    else if c = '+' then .adjacent
    else .descendant
  ⟨place, combinator⟩

/-- The fault of a combinator before which nothing stands. -/
def noSelector (pattern : List Char) (f : Frame) (c : Char) : Failure :=
  grammarFailure pattern f.place ("The combinator '" ++ c.toString ++ "' at position "
    ++ toString f.place ++ ", must have a selector before it")

/-- A combinator at `start` in the list of `:has`. -/
def combineForward (pattern : List Char) (f : Frame) (start : Nat) (c : Char) :
    Except Failure Frame :=
  if c = ',' then
    if !f.hasSelector then .error (noSelector pattern f c)
    else
      .ok { f with
        done := f.holder :: f.done, chain := [], leading := .silent, draft := .empty
        hasSelector := false }
  else if f.hasSelector then
    .ok { f with
      chain := f.link, leading := linkOf start c, draft := .empty, hasSelector := false }
  else if f.leading.combinator != .descendant then
    .error (grammarFailure pattern f.place
      ("The multiple combinators at position " ++ toString f.place))
  else .ok { f with leading := linkOf start c, draft := .empty }

/-- A combinator at `start` in any other list. -/
def combine (pattern : List Char) (f : Frame) (start : Nat) (c : Char) : Except Failure Frame :=
  if !f.hasSelector then
    if f.forgives && c = ',' then
      .ok { f with left := none, draft := .empty, size := f.size + 1 }
    else .error (noSelector pattern f c)
  else if c = ',' then
    .ok { f with
      done := f.current :: f.done, left := none, draft := .empty, hasSelector := false }
  else
    .ok { f with
      left := some (linkOf start c, f.current), draft := .empty, hasSelector := false }

/-- The fault of a list that ends where a selector is due. -/
def expected (pattern : List Char) (place : Nat) : Failure :=
  grammarFailure pattern place ("Expected a selector at position " ++ toString place)

/-- The selectors of a list that ends here. -/
def finish (pattern : List Char) (f : Frame) : Except Failure (List Selector) :=
  if f.hasSelector then
    .ok ((if f.purpose = .has then f.holder else f.current) :: f.done).reverse
  else if f.forgives && (f.done.isEmpty || f.left.isNone) then .ok (.never :: f.done).reverse
  else .error (expected pattern f.place)

/-- The list around a list whose parenthesis closes. An empty place at the end of that is counted.
-/
def absorb (f : Frame) (inner : Frame) (selectors : List Selector) : Frame :=
  let f := { f with size := inner.size + if inner.hasSelector then 0 else 1 }
  match inner.purpose with
  | .query => f
  | .group isNegated => f.push (.group isNegated inner.onlyHtml selectors)
  | .has => f.push (.group false inner.onlyHtml selectors)
  | .counted place n => f.push (.nth place n inner.onlyHtml (some selectors))
  | .nothing => f.deny

end Frame

/-- Pseudo-classes about what a document does not have: a user, a history, a player. -/
def absentNames : List String :=
  [":active", ":autofill", ":buffering", ":current", ":focus", ":focus-visible", ":focus-within",
   ":fullscreen", ":future", ":host", ":hover", ":local-link", ":past", ":paused",
   ":picture-in-picture", ":playing", ":popover-open", ":seeking", ":stalled", ":target",
   ":target-within", ":user-invalid", ":visited", ":volume-locked"]

/-- Pseudo-classes with a list that are about what a document does not have. -/
def absentListNames : List String := [":current", ":host", ":host-context"]

/-- Pseudo-classes with a list. -/
def listNames : List String :=
  [":contains", ":-soup-contains", ":-soup-contains-own", ":has", ":is", ":matches", ":not",
   ":where"]

/-- Pseudo-classes whose parentheses hold something else. -/
def specialNames : List String :=
  [":dir", ":lang", ":nth-child", ":nth-last-child", ":nth-last-of-type", ":nth-of-type"]

/-- The number of a first or last sibling. -/
def firstOf (sameName fromEnd : Bool) : Nth := ⟨0, 1, sameName, fromEnd⟩

/-- The conditions of a pseudo-class without a list; `place` is where it stands. -/
def simple? (place : Nat) (name : String) : Option (List Condition) :=
  let numbered (n : Nth) : Condition := .nth place n false none
  match name with
  | ":root" => some [.root]
  | ":scope" => some [.scope]
  | ":empty" => some [.empty]
  | ":first-child" => some [numbered (firstOf false false)]
  | ":last-child" => some [numbered (firstOf false true)]
  | ":first-of-type" => some [numbered (firstOf true false)]
  | ":last-of-type" => some [numbered (firstOf true true)]
  | ":only-child" => some [numbered (firstOf false false), numbered (firstOf false true)]
  | ":only-of-type" => some [numbered (firstOf true false), numbered (firstOf true true)]
  | name => (Html.pseudoClasses.lookup name).map fun c ↦ [c]

/-- Whether a pseudo-class is known under some form. -/
def isKnown (name : String) : Bool :=
  (simple? 0 name).isSome || name = ":defined" || absentNames.contains name
    || listNames.contains name || absentListNames.contains name || specialNames.contains name

/-- The comparison of a test of an attribute. -/
def comparisonOf (name : String) (operator : Char) (value : List Char) (letter : Option Char) :
    Except Failure Comparison := do
  let text ← Scan.valueText value
  let kind : Operator :=
    if operator = '^' then .beginsWith
    else if operator = '$' then .endsWith
    else if operator = '*' then .contains
    else if operator = '~' then .hasWord
    else if operator = '|' then .hasStem
    else .equals
  let isType := letter.isNone && name.map Char.toLower = "type"
  return ⟨kind, text, letter = some 'i', !isType⟩

/-- The number that a sign and digits write, unless they are too many. -/
def Signed.number (n : Signed) : Except Failure Int := do
  if n.digits.length > VectorLint.Html.maxDigits then
    throw (VectorLint.Html.tooManyDigits n.digits.length)
  let value : Int := VectorLint.Html.decimal n.digits
  return if n.isNegative then -value else value

/-- The test of a number that a formula writes. -/
def Formula.nth (f : Formula) (sameName fromEnd : Bool) : Except Failure Nth := do
  return ⟨← f.step.number, ← f.offset.number, sameName, fromEnd⟩

/-- The most conditions that a query may have. -/
def maxSize : Nat := 8192

/-- How many conditions a token writes. -/
def Token.Kind.size : Token.Kind → Nat
  | .close => 0
  | .combinator _ => 0
  | _ => 1

/-- How many conditions count besides a pseudo-class without a list: those of the selectors that one
of HTML stands for. -/
def listedSize (name : String) : Nat :=
  ((Html.pseudoClasses.lookup name).map fun c ↦ c.size - 1).getD 0

/-- The stack of lists with one more token read; the size of the query is not looked at. -/
def addToken (pattern : List Char) (stack : List Frame) (t : Token) :
    Except Failure (List Frame) := do
  let grammarFault (message : String) : Failure := grammarFailure pattern t.start message
  match stack with
  | [] => return []
  | f :: outer =>
    let f := { f with size := f.size + t.kind.size }
    let behind (f : Frame) : List Frame := { f with place := t.stop } :: outer
    let opening (purpose : Purpose) (forgives : Bool) : List Frame :=
      Frame.begin purpose forgives t.stop f.size :: behind f
    match t.kind with
    | .atRule =>
      throw ⟨.notImplemented, "At-rules found at position " ++ toString t.start⟩
    | .pseudoElement =>
      throw ⟨.notImplemented, "Pseudo-element found at position " ++ toString t.start⟩
    | .nesting => return behind (f.push .scope)
    | .custom name =>
      let name ← Token.pseudoName name
      throw (grammarFailure pattern t.stop
        ("Undefined custom selector '" ++ name ++ "' found at position " ++ toString t.stop))
    | .pseudoClass name isOpen =>
      let name ← Token.pseudoName name
      if isOpen && listNames.contains name then
        if name = ":has" then return opening .has false
        return opening (.group (name = ":not")) (name = ":is" || name = ":where")
      if !isOpen && name = ":defined" then
        return behind { f.push (.html .defined) with onlyHtml := true }
      if isOpen && absentListNames.contains name then return opening .nothing false
      match if isOpen then none else simple? t.start name with
      | some conditions =>
        return behind (conditions.foldl Frame.push { f with size := f.size + listedSize name })
      | none =>
        if !isOpen && absentNames.contains name then return behind f.deny
        if isKnown name then
          throw (grammarFault ("Invalid syntax for pseudo class '" ++ name ++ "'"))
        throw (grammarFault ("'" ++ name
          ++ "' was detected as a pseudo-class and is either unsupported or invalid. "
          ++ "If the syntax was not intended to be recognized as a pseudo-class, "
          ++ "please escape the colon."))
    | .texts name values =>
      let texts ← Scan.valueTexts values
      let test : TextTest := ⟨name = ":-soup-contains-own", texts⟩
      return behind { f with
        draft := { f.draft with texts := f.draft.texts ++ [test] }, hasSelector := true }
    | .nthChild name formula hasList =>
      let n ← formula.nth false (name = ":nth-last-child")
      if hasList then return opening (.counted t.start n) false
      return behind (f.push (.nth t.start n false none))
    | .nthOfType name formula =>
      let n ← formula.nth true (name = ":nth-last-of-type")
      return behind (f.push (.nth t.start n false none))
    | .language values => return behind (f.push (.language [← Scan.valueTexts values]))
    | .direction d => return behind { f.push (.html (.direction d)) with onlyHtml := true }
    | .close =>
      if !f.hasSelector && !f.forgives then throw (Frame.expected pattern t.start)
      match outer with
      | [] => throw (grammarFault ("Unmatched pseudo-class close at position " ++ toString t.start))
      | g :: outer => return g.absorb f (← f.finish pattern) :: outer
    | .combinator c =>
      if f.purpose = .has then return behind (← f.combineForward pattern t.start c)
      return behind (← f.combine pattern t.start c)
    | .attribute space name comparison =>
      let space ← Scan.unescape false space
      let name ← Scan.unescape false name
      match comparison with
      | none => return behind (f.push (.attribute ⟨space, name, none⟩))
      | some (operator, value, letter) =>
        let test : AttributeTest := ⟨space, name, some (← comparisonOf name operator value letter)⟩
        if operator = '!' then
          return behind (f.push (.group true false [.all [.attribute test]]))
        return behind (f.push (.attribute test))
    | .tag space name =>
      if f.hasSelector then
        throw (grammarFault ("Tag name found at position " ++ toString t.start
          ++ " instead of at the start"))
      let space ← space.mapM (Scan.unescape false)
      return behind (f.push (.tag space (← Scan.unescape false name)))
    | .className name => return behind (f.push (.className (← Scan.unescape false name)))
    | .id name => return behind (f.push (.id (← Scan.unescape false name)))

/-- The stack of lists with one more token read, if the query does not grow too large. -/
def readToken (pattern : List Char) (stack : List Frame) (t : Token) :
    Except Failure (List Frame) := do
  let stack ← addToken pattern stack t
  if stack.head?.any (·.size > maxSize) then
    throw ⟨.value, "Selector exceeds pseudo-class nesting limit of " ++ toString maxSize⟩
  return stack

end Selector

/-- The query that a text writes. The character `U+0000` stands for `U+FFFD`. -/
def Query.ofText (text : String) : Except Failure Query := do
  let pattern := text.toList.map fun c ↦ if c = '\x00' then '\ufffd' else c
  let (tokens, ending) := Selector.Token.ofText pattern
  let stack ← tokens.foldlM (Selector.readToken pattern) [.begin .query false 0 0]
  if let some failure := ending then throw failure
  match stack with
  | [f] => return ⟨← f.finish pattern, f.onlyHtml⟩
  | f :: _ => throw (Selector.grammarFailure pattern f.place
      ("Unclosed pseudo-class at position " ++ toString f.place))
  | [] => return ⟨[], false⟩

end VectorLint
