import VectorLint.Html.Direction
import VectorLint.Html.Form
import VectorLint.Html.Range
import VectorLint.Selector.Basic
import VectorLint.Selector.Language
import VectorLint.Text.Blank
import VectorLint.Text.Folding

/-!
# Matching

Whether an element matches a selector is decided at its place. The document takes part as the parent
of the root element, so that a selector may ask for the parent of the root; it matches like an
element without attributes. Short names of namespaces mean what they were first bound to in the
document.

## What is remembered

One search looks at many elements in turn, and some tests remember what they found among the
children of a parent, or in a group of buttons, for the elements that follow. What is remembered
shows in what is found.

* A test for an earlier sibling looks for the first child that matches, once for each parent.
* A test for a later sibling looks for the last child that matches, once for each parent. The first
  element for which that is done passes if it stands before that child; from then on, an element
  passes if the node behind it does, or if nothing is behind it.
* A count of siblings from the end goes on from the element that was looked at before, as long as
  the elements come in document order. If the element with which a count began is not one of those
  that count, then every number found from there is one too small.
* The language that the head of a document in a frame gives is looked up once. The first element for
  which that is done has no language if the head gives none; from then on, it is the empty one.
-/

namespace VectorLint.Selector

/-- What selectors need to know about the document: the namespaces of short names, whether it is a
document of HTML, and whether looks stay in the document of an element when it is in a frame. -/
structure Surroundings where
  namespaces : List (String × String)
  isHtml : Bool
  staysInFrame : Bool

/-- The surroundings in which a list is looked at; in one only for HTML, the short name `html` is
the only one. -/
def Surroundings.inList (env : Surroundings) (onlyHtml : Bool) : Surroundings :=
  if onlyHtml then
    { env with namespaces := [("html", Html.namespaceName)], staysInFrame := true }
  else env

/-- A test made in the surroundings of a list. In a list that is only for HTML it fails elsewhere.
-/
def Surroundings.test {m : Type → Type} [Monad m] (env : Surroundings) (onlyHtml : Bool)
    (test : Surroundings → m Bool) : m Bool :=
  if onlyHtml && !env.isHtml then pure false else test (env.inList onlyHtml)

/-- What a test and the children of a parent go by: the number of the test, and the address of the
parent. The document itself is the child of no parent. -/
abbrev Memory.Key := Nat × Option (List Nat)

/-- A count of siblings from the end: the number of the node that was looked at last, and whether
the element with which the count began is one of those that count. -/
structure Memory.Count where
  last : Nat
  isExact : Bool

/-- What a search remembers: the numbers of the first and of the last children that match tests for
a sibling, the counts of siblings from the end, the languages of the documents in frames, and
whether nothing is chosen in groups of buttons. -/
structure Memory where
  firstMatches : List (Memory.Key × Option Nat)
  lastMatches : List (Memory.Key × Option Nat)
  counts : List (Memory.Key × Memory.Count)
  languages : List (List Nat × String)
  unsetGroups : List ((List Nat × String) × Bool)

/-- Nothing is remembered. -/
def Memory.empty : Memory := ⟨[], [], [], [], []⟩

/-- A part of a search. -/
abbrev Search := StateT Memory (Except Failure)

/-- Whether a character separates words. -/
def isWordSpace (c : Char) : Bool :=
  c == ' ' || c == '\t' || c == '\r' || c == '\n' || c == '\x0c'

/-- The words of a text. -/
def words (cs : List Char) : List (List Char) :=
  let (word, found) := cs.foldr
    (fun c (word, found) ↦
      if isWordSpace c then ([], if word.isEmpty then found else word :: found)
      else (c :: word, found))
    ([], [])
  if word.isEmpty then found else word :: found

/-- Whether a text, or the text without a line feed at its end, meets a test. -/
def atEnd (test : List Char → Bool) (cs : List Char) : Bool :=
  test cs || (cs.getLast? = some '\n' && test cs.dropLast)

/-- The parts of a text behind each of its first characters, all of which have to meet `passes`. -/
def suffixes (passes : Char → Bool) : List Char → List (List Char)
  | [] => [[]]
  | c :: cs => (c :: cs) :: (if passes c then suffixes passes cs else [])

/-- Whether the value of an attribute meets a comparison. -/
def Comparison.holds (c : Comparison) (value : String) : Bool :=
  let letters (s : String) : List Char :=
    if c.ignoresCase then s.toList.map Text.folded else s.toList
  let text := letters c.text
  let cs := letters value
  let passes (d : Char) : Bool := c.crossesLines || d != '\n'
  match c.operator with
  | .equals => atEnd (· = text) cs
  | .beginsWith => !text.isEmpty && text.isPrefixOf cs
  | .endsWith => !text.isEmpty && (suffixes passes cs).any fun s ↦ atEnd (· = text) s
  | .contains => !text.isEmpty && (suffixes passes cs).any fun s ↦ text.isPrefixOf s
  | .hasWord =>
    !text.isEmpty && !text.any isWordSpace
      && (words (if c.crossesLines then cs else cs.takeWhile (· != '\n'))).contains text
  | .hasStem =>
    let isStemOf (s : List Char) : Bool :=
      (text ++ ['-']).isPrefixOf s && (s.drop (text.length + 1)).all passes
    atEnd (fun s ↦ s = text || isStemOf s) cs

/-- The value of the attribute that a test is about. Without a known short name the whole name of
the attribute counts. -/
def AttributeTest.value? (env : Surroundings) (t : AttributeTest) (p : Place) : Option String :=
  let byName := p.tag.get? t.name
  if t.space = "" then byName
  else
    match env.namespaces.lookup t.space with
    | none => if t.space = "*" then byName else none
    | some uri =>
      (p.tag.attributes.find? fun a ↦ a.namespaceName = some uri && a.localName = t.name).map
        (·.value)

/-- Whether an element meets a test of an attribute. -/
def AttributeTest.holds (env : Surroundings) (t : AttributeTest) (p : Place) : Bool :=
  match t.value? env p with
  | none => false
  | some value => t.comparison.all (·.holds value)

/-- Whether the name of a place is the one asked for. -/
def isNamed (env : Surroundings) (space : Option String) (name : String) (p : Place) : Bool :=
  let uri := p.tag.namespaceName.getD ""
  let inSpace := match space with
    | none => true
    | some "" => uri = ""
    | some "*" => true
    | some s => env.namespaces.lookup s = some uri
  inSpace && (name = "*" || name = p.tag.name)

/-- Whether nothing but remarks and white space is inside a place. -/
def isEmpty (p : Place) : Bool :=
  p.elements.isEmpty && p.ownTexts.all fun s ↦ s.toList.all isWordSpace

/-- Whether `part` occurs in a text. -/
def occursIn (part text : List Char) : Bool := (suffixes (fun _ ↦ true) text).any part.isPrefixOf

/-- Whether the texts of an element meet tests. The first test decides what is looked through: all
the text as one, or each text right inside; a test of the other kind then looks at the characters of
the one, or for a text of the others that is equal to its own. -/
def textsHold (env : Surroundings) (tests : List TextTest) (p : Place) : Bool :=
  match tests with
  | [] => true
  | first :: _ =>
    let isOut (t : Markup.Tag) : Bool := env.isHtml && Html.isFrame t
    let pieces := (if isOut p.tag then [] else p.ownTexts).map String.toList
    let whole := (p.textOutside isOut).toList
    tests.all fun t ↦ t.texts.any fun text ↦
      let cs := text.toList
      match first.own, t.own with
      | true, true => pieces.any (occursIn cs)
      | true, false => pieces.contains cs
      | false, true => whole.any fun c ↦ occursIn cs [c]
      | false, false => occursIn cs whole

/-- Whether an element is the outermost one of its document, with nothing beside it. -/
def isRoot (env : Surroundings) (p : Place) : Bool :=
  let outermost := p.isRoot || (env.isHtml && p.parent?.any fun q ↦ Html.isFrame q.tag)
  outermost && p.earlier.isEmpty && p.later.isEmpty
    && (p.parent?.all fun q ↦ q.ownTexts.all Text.isBlankText)

/-- Whether the name of an element is not one that an author made up. -/
def isDefined (p : Place) : Bool :=
  !p.tag.name.contains '-' || p.tag.name.contains ':' || p.tag.namespaceName.isSome

/-- Whether a number has the form of a formula: it is the offset, or the quotient of what is beyond
the offset and the step is a whole number that is not negative. The quotient is one of double
precision, and it fails if it is too large for that. -/
def Nth.holds (n : Nth) (number : Nat) : Except Failure Bool :=
  let beyond : Int := number - n.offset
  if n.step = 0 then .ok (beyond = 0)
  else
    let isNegative := decide (beyond < 0) != decide (n.step < 0)
    match Binary64.ofRatio isNegative beyond.natAbs n.step.natAbs with
    | .infinite _ => .error ⟨.overflow, "integer division result too large for a float"⟩
    | quotient => .ok (quotient.isWhole && quotient.geInt 0)

/-- The siblings that are counted before an element. -/
def Nth.siblings (n : Nth) (p : Place) : List Place :=
  let before := if n.fromEnd then p.later else p.earlier
  if n.sameName then
    before.filter fun q ↦
      q.tag.name = p.tag.name && q.tag.namespaceName.getD "" = p.tag.namespaceName.getD ""
  else before

/-- The places that lie to a place as a combinator says. -/
def Combinator.places (env : Surroundings) (c : Combinator) (isForward : Bool) (p : Place) :
    List Place :=
  match c, isForward with
  | .descendant, false => if env.staysInFrame then Html.ancestors p else p.ancestors
  | .child, false => (if env.staysInFrame then Html.parent? p else p.parent?).toList
  | .sibling, false => p.earlier
  | .adjacent, false => p.earlier.head?.toList
  | .descendant, true => if env.staysInFrame then Html.descendants p else p.descendants
  | .child, true => if env.staysInFrame then Html.elements p else p.elements
  | .sibling, true => p.later
  | .adjacent, true => p.later.head?.toList

/-! ## Tests that remember -/

/-- What a test goes by that is made at a place. -/
def keyAt (id : Nat) (p : Place) : Memory.Key := (id, p.parent?.map Place.address)

/-- Whether an earlier sibling is one of the children that `isMatch` holds for. -/
def hasEarlier (id : Nat) (isMatch : Place → Search Bool) (p : Place) : Search Bool := do
  match p.parent? with
  | none => return false
  | some parent =>
    let first ← match (← get).firstMatches.lookup (keyAt id p) with
      | some first => pure first
      | none => do
        let first := (← parent.elements.findM? isMatch).map Place.number
        modify fun m ↦ { m with firstMatches := (keyAt id p, first) :: m.firstMatches }
        pure first
    return first.any (· < p.number)

/-- Whether a later sibling is one of the children that `isMatch` holds for. -/
def hasLater (id : Nat) (isMatch : Place → Search Bool) (p : Place) : Search Bool := do
  match p.parent? with
  | none => return false
  | some parent =>
    match (← get).lastMatches.lookup (keyAt id p) with
    | some last => return last.any ((if p.isLast then 0 else p.number + 1) < ·)
    | none =>
      let last := (← parent.elements.reverse.findM? isMatch).map Place.number
      modify fun m ↦ { m with lastMatches := (keyAt id p, last) :: m.lastMatches }
      return last.any (p.number < ·)

/-- Whether an element that counts has a number of the form of a formula. A formula that stands for
one number only, which is not a positive one, stands for none. -/
def isNthCounted (id : Nat) (n : Nth) (isCounted : Place → Search Bool) (p : Place) :
    Search Bool := do
  let counts ← isCounted p
  let begun := ((← get).counts.lookup (keyAt id p)).filter (·.last < p.number)
  let isExact := (begun.map (·.isExact)).getD counts
  modify fun m ↦ { m with counts := (keyAt id p, ⟨p.number, isExact⟩) :: m.counts }
  if !counts || (n.step = 0 && n.offset ≤ 0) then return false
  let before ← (n.siblings p).filterM isCounted
  n.holds (before.length + if n.fromEnd && !isExact then 0 else 1)

/-- The language of a place. -/
def languageAt (env : Surroundings) (p : Place) : Search (Option String) := do
  if let some tag := Language.of? env.isHtml p then return some tag
  if !env.isHtml then return none
  let root := Language.outermost p
  if let some tag := (← get).languages.lookup root.address then return some tag
  match Language.head? root with
  | none => return none
  | some head =>
    let tag := Language.ofHead? head
    modify fun m ↦ { m with languages := (root.address, tag.getD "") :: m.languages }
    return tag

/-- Whether no other radio button is chosen in the group of one. A radio button right inside a frame
is in no group, and there is nothing to be chosen. -/
def isGroupUnset (p : Place) : Search Bool := do
  let some group := Html.group? p | return false
  let key := (group.address, Html.value p "name")
  match (← get).unsetGroups.lookup key with
  | some unset => return unset
  | none =>
    let unset := Html.isGroupUnset group p
    modify fun m ↦ { m with unsetGroups := (key, unset) :: m.unsetGroups }
    return unset

/-- Whether an element meets a condition that is only about elements of HTML. -/
def HtmlTest.holds (p : Place) : HtmlTest → Search Bool
  | .defined => return isDefined p
  | .blankText => return p.text = "" || p.text = "\n"
  | .ranged isInside => Html.isRanged isInside p
  | .defaultButton => return Html.isDefaultButton p
  | .groupUnset => isGroupUnset p
  | .direction d => return Html.direction? p = some d

/-! ## Matching -/

mutual

/-- Whether a place matches a selector. -/
def matchesAt (env : Surroundings) : Selector → Place → Search Bool
  | .never, _ => return false
  | .all conditions, p => allHold env conditions p

/-- Whether a place meets a condition. -/
def holdsAt (env : Surroundings) : Condition → Place → Search Bool
  | .tag space name, p => return isNamed env space name p
  | .id name, p => return Html.value p "id" = name
  | .className name, p => return (words (Html.value p "class").toList).contains name.toList
  | .attribute test, p => return test.holds env p
  | .root, p => return isRoot env p
  | .scope, p => return p.isRoot
  | .empty, p => return isEmpty p
  | .html test, p => test.holds p
  | .nth _ n _ none, p => n.holds ((n.siblings p).length + 1)
  | .nth id n onlyHtml (some counted), p =>
    isNthCounted id n (fun q ↦ env.test onlyHtml fun env ↦ anyMatches env counted q) p
  | .texts tests, p => return textsHold env tests p
  | .language ranges, p => do
    match ← languageAt env p with
    | none => return false
    | some tag =>
      return ranges.all fun alternatives ↦ alternatives.any (Language.matchesRange · tag)
  | .group isNegated onlyHtml alternatives, p => do
    if onlyHtml && !env.isHtml then return false
    return (← env.test onlyHtml fun env ↦ anyMatches env alternatives p) != isNegated
  | .related id false .sibling other, p => hasEarlier id (fun q ↦ matchesAt env other q) p
  | .related id true .sibling other, p => hasLater id (fun q ↦ matchesAt env other q) p
  | .related _ isForward c other, p =>
    (c.places env isForward p).anyM fun q ↦ matchesAt env other q

/-- Whether a place meets all conditions. Behind a list of selectors that does not match, the other
lists of selectors are looked at all the same. -/
def allHold (env : Surroundings) : List Condition → Place → Search Bool
  | [], _ => return true
  | c :: conditions, p => do
    if ← holdsAt env c p then allHold env conditions p
    else
      if c.isGroup then passGroups env conditions p
      return false

/-- Looks at the lists of selectors at the head of conditions. -/
def passGroups (env : Surroundings) : List Condition → Place → Search Unit
  | [], _ => return ()
  | c :: conditions, p => do
    if c.isGroup then
      let _ ← holdsAt env c p
      passGroups env conditions p

/-- Whether a place matches one of several selectors. -/
def anyMatches (env : Surroundings) : List Selector → Place → Search Bool
  | [], _ => return false
  | s :: selectors, p => do
    if ← matchesAt env s p then return true
    anyMatches env selectors p

end

end Selector

/-- Whether a place matches a query. -/
def Query.matchesAt (q : Query) (env : Selector.Surroundings) (p : Place) : Selector.Search Bool :=
  env.test q.onlyHtml fun env ↦ Selector.anyMatches env q.alternatives p

end VectorLint
