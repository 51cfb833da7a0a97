import VectorLint.Markup.Doctype
import VectorLint.Markup.Namespace

/-!
# Events

What reading a document comes to is a list of events: elements begin and end, and text and remarks
stand between. An element begins with its full name, its attributes in the order in which they are
written, and the namespaces that it binds; the values are those the attributes denote. Here is also
decided whether an element may begin: its attributes have to differ, their references have to stand
for characters, and its short names have to be bound. A thorough reading does not ask for the last:
a default may have unbound a short name, and then an attribute with it is in the namespace without a
name.
-/

namespace VectorLint.Markup

/-- A name with its namespace. An attribute without a short name has none. -/
structure FullName where
  name : QName
  namespaceName : Option String
  deriving DecidableEq, Repr

/-- A name in a namespace. Full names are written with the namespace in braces before the local
name, and the first closing brace is taken to end the namespace: what follows it in the name of the
namespace goes to the local name. -/
def FullName.inside (n : QName) (uri : String) : FullName :=
  let cs := uri.toList
  let front := cs.takeWhile (· != '\x7d')
  if front.length = cs.length then ⟨n, some uri⟩
  else
    let base := String.ofList (cs.drop (front.length + 1)) ++ "\x7d" ++ n.base
    ⟨⟨n.space, base⟩, some (String.ofList front)⟩

/-- An event. -/
inductive Event where
  /-- An element begins. The bindings that are written come before those that the document type
  adds. -/
  | opening (name : FullName) (attributes : List (FullName × String))
    (bindings : List (Option String × String))
  /-- The innermost element ends. -/
  | closing
  | text (cs : List Char)
  | remark
  deriving DecidableEq, Repr

namespace Doctype

/-- The declarations for an element, the first for each attribute. -/
def declarationsOf (d : Doctype) (element : String) : List AttributeDeclaration :=
  (d.attributes.filter (·.element = element)).foldl
    (fun found a ↦ if found.any (·.name = a.name) then found else found ++ [a]) []

/-- A name with a short name, or without one, from its text. -/
def nameOfText (s : String) : QName :=
  let cs := s.toList
  let front := cs.takeWhile (· != ':')
  if front.length = cs.length then ⟨none, s⟩
  else ⟨some (String.ofList front), String.ofList (cs.drop (front.length + 1))⟩

/-- The attributes of a tag read one after the other: the values they denote, and the scope with the
namespaces they bind. The tag stands at `start`. -/
def readAttributes (d : Doctype) (start : Nat) (declared : List AttributeDeclaration)
    (scope : Scope) (seen : List (QName × String)) :
    List RawAttribute → Except Fault (Scope × List (QName × String))
  | [] => .ok (scope, seen.reverse)
  | a :: rest => do
    if seen.any (·.1 = a.name) then throw (.malformed .duplicateAttribute a.offset)
    if let some f := Piece.fault? d.isPartial start a.value then throw f
    let isText := (declared.find? (·.name = a.name.text)).all (·.isText)
    let value := Piece.value isText a.value
    let scope ← match a.name.binding? with
      | none => .ok scope
      | some space => (scope.bind space value).mapError (.malformed · start)
    readAttributes d start declared scope ((a.name, value) :: seen) rest

/-- The bindings among values of attributes. -/
def bindingsOf (attributes : List (QName × String)) : List (Option String × String) :=
  attributes.filterMap fun (n, v) ↦ n.binding?.map (·, v)

/-- The scope with the bindings that a document type adds. A thorough reading takes them as they
are. -/
def addBindings (d : Doctype) (start : Nat) (scope : Scope)
    (bindings : List (Option String × String)) : Except Fault Scope :=
  if d.isThorough then .ok (bindings.reverse ++ scope)
  else
    bindings.foldlM (fun s (space, uri) ↦ (s.bind space uri).mapError (.malformed · start)) scope

/-- The beginning of an element whose tag stands at `start`: the scope inside it, and the event. -/
def enter (d : Doctype) (scope : Scope) (start : Nat) (tag : StartTag) :
    Except Fault (Scope × Event) := do
  let declared := d.declarationsOf tag.name.text
  let (scope, values) ← d.readAttributes start declared scope [] tag.attributes
  let defaults := declared.filterMap fun a ↦
    if values.any (·.1.text = a.name) then none else a.value.map fun v ↦ (nameOfText a.name, v)
  let scope ← d.addBindings start scope (bindingsOf defaults)
  let isAttribute (n : QName) : Bool := n.binding?.isNone
  let names := ((values ++ defaults).map (·.1)).filter isAttribute
  let faults := if d.isThorough then none else scope.namesProblem? [] names
  if let some p := faults then throw (.malformed p start)
  let namespaceName := scope.namespace? tag.name.space
  if tag.name.space.isSome && namespaceName.isNone && !d.isThorough then
    throw (.malformed .unboundName start)
  let full (n : QName) : FullName :=
    match n.space.bind fun s ↦ scope.lookup (some s) with
    | some uri => .inside n uri
    | none => ⟨n, none⟩
  let attributes := (values.filter (isAttribute ·.1)).map fun (n, v) ↦ (full n, v)
  let name := match namespaceName with
    | some uri => FullName.inside tag.name uri
    | none => ⟨tag.name, none⟩
  return (scope, .opening name attributes (bindingsOf values ++ bindingsOf defaults))

end Doctype

end VectorLint.Markup
