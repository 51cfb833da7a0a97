import VectorLint.Markup.Event

/-!
# The tree of a document

The events of a document form a tree of elements, texts and remarks. Elements go by their local
names. The attributes of an element keep the order in which they are written, and the namespaces it
binds follow them as attributes of their own. An attribute of a namespace is named with the short
name that the nearest element binds to that namespace, and by its local name alone if that is the
default namespace; of two attributes that come out with one name, the first place and the last value
count. Text between two tags or remarks is one text, and white space alone is cut down to a line
feed or a blank.
-/

namespace VectorLint.Markup

/-- An attribute as it is queried. -/
structure Attribute where
  name : String
  namespaceName : Option String
  localName : String
  value : String
  deriving DecidableEq, Repr

/-- The name and the attributes of an element. -/
structure Tag where
  name : String
  namespaceName : Option String
  attributes : List Attribute
  deriving DecidableEq, Repr

/-- The value of an attribute. -/
def Tag.get? (t : Tag) (name : String) : Option String :=
  (t.attributes.find? (·.name = name)).map (·.value)

/-- A part of a document. -/
inductive Node where
  | element (tag : Tag) (children : List Node)
  | text (s : String)
  | remark
  deriving Repr

/-- The tree of a document: its root element, if there is one, as a list of nodes, and the namespace
that each short name was first bound to. -/
structure Tree where
  nodes : List Node
  namespaces : List (String × String)

namespace Tree

/-- White space of ASCII. -/
def isSpace (c : Char) : Bool :=
  c == ' ' || c == '\n' || c == '\t' || c == '\x0c' || c == '\r'

/-- The node of a text; white space alone is a line feed if it holds one, and otherwise a blank. -/
def textNode (cs : List Char) : Node :=
  if cs.all isSpace then .text (if cs.contains '\n' then "\n" else " ")
  else .text (String.ofList cs)

/-- An element that is open: its tag, its children with the last one first, and the namespaces it
binds. -/
structure Opened where
  tag : Tag
  children : List Node
  bindings : List (Option String × String)

/-- A tree that is being built: the open elements, the innermost first, the text read since the
last tag with the last character first, the finished root, and the short names bound so far. -/
structure Builder where
  opened : List Opened
  pending : List Char
  nodes : List Node
  namespaces : List (String × String)

/-- The short name that an element binds to a namespace: of several, the last. -/
def shortNameIn? (bindings : List (Option String × String)) (uri : String) :
    Option (Option String) :=
  (bindings.reverse.find? (·.2 = uri)).map (·.1)

/-- The short name for a namespace inside some open elements. -/
def shortName (scopes : List (List (Option String × String))) (uri : String) : Option String :=
  match scopes.findSome? (shortNameIn? · uri) with
  | some name => name
  | none => if uri = xmlNamespace then some "xml" else none

/-- An attribute put behind others: a name that is there keeps its place and takes the value. -/
def putAttribute (a : Attribute) : List Attribute → List Attribute
  | [] => [a]
  | b :: rest =>
    if b.name = a.name then { b with value := a.value } :: rest else b :: putAttribute a rest

/-- The attribute that binds a namespace. -/
def bindingAttribute (space : Option String) (uri : String) : Attribute :=
  { name := match space with
      | some s => "xmlns:" ++ s
      | none => "xmlns"
    namespaceName := some xmlnsNamespace
    localName := space.getD ""
    value := uri }

/-- A written attribute under the name by which it is queried. -/
def queried (scopes : List (List (Option String × String))) (n : FullName) (value : String) :
    Attribute :=
  match n.namespaceName with
  | none => ⟨n.name.base, none, n.name.base, value⟩
  | some uri =>
    let name := match shortName scopes uri with
      | some s => s ++ ":" ++ n.name.base
      | none => n.name.base
    ⟨name, some uri, n.name.base, value⟩

/-- The tag of an element that begins inside the elements that bind `outer`. -/
def tagOf (outer : List (List (Option String × String))) (name : FullName)
    (attributes : List (FullName × String)) (bindings : List (Option String × String)) : Tag :=
  let written := attributes.map fun (n, v) ↦ queried (bindings :: outer) n v
  let all := written ++ bindings.map fun (space, uri) ↦ bindingAttribute space uri
  { name := name.name.base
    namespaceName := name.namespaceName
    attributes := all.foldl (fun found a ↦ putAttribute a found) [] }

/-- The short names bound so far together with those of one more element; the first binding of a
name counts. -/
def register (namespaces : List (String × String)) (bindings : List (Option String × String)) :
    List (String × String) :=
  bindings.foldl
    (fun found (space, uri) ↦
      match space with
      | some s => if found.any (·.1 = s) then found else found ++ [(s, uri)]
      | none => found)
    namespaces

namespace Builder

/-- Nothing has been built. -/
def initial : Builder := ⟨[], [], [], [("xml", xmlNamespace)]⟩

/-- A node put at the end of the innermost open element. -/
def add (b : Builder) (n : Node) : Builder :=
  match b.opened with
  | [] => b
  | e :: outer => { b with opened := { e with children := n :: e.children } :: outer }

/-- The text read since the last tag as a node. -/
def endText (b : Builder) : Builder :=
  if b.pending.isEmpty then b else { b.add (textNode b.pending.reverse) with pending := [] }

/-- One more event. -/
def step (b : Builder) : Event → Builder
  | .text cs => { b with pending := cs.reverse ++ b.pending }
  | .remark => b.endText.add .remark
  | .opening name attributes bindings =>
    let b := b.endText
    let bindings := bindings.filter (·.1 != some "xml")
    let tag := tagOf (b.opened.map (·.bindings)) name attributes bindings
    { b with
      opened := ⟨tag, [], bindings⟩ :: b.opened
      namespaces := register b.namespaces bindings }
  | .closing =>
    let b := b.endText
    match b.opened with
    | [] => b
    | [e] => { b with opened := [], nodes := b.nodes ++ [.element e.tag e.children.reverse] }
    | e :: outer => { b with opened := outer }.add (.element e.tag e.children.reverse)

end Builder

/-- The builder when the events end: the elements that are still open end too. -/
def Builder.finish (b : Builder) : Builder :=
  (List.replicate b.opened.length Event.closing).foldl step b

/-- The tree of a document's events. -/
def ofEvents (events : List Event) : Tree :=
  let b := (events.foldl Builder.step .initial).finish
  ⟨b.nodes, b.namespaces⟩

end Tree

end VectorLint.Markup
