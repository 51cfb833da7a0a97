import VectorLint.Markup.Fault
import VectorLint.Markup.Tag

/-!
# Namespaces

The names of elements and attributes belong to namespaces. An attribute `xmlns` or `xmlns:p` binds
the default namespace or the short name `p` for its element and everything inside. A short name has
to be bound where it is used, and may not be bound to nothing; `xml` and `xmlns` have fixed meanings
that no binding may change or take.
-/

namespace VectorLint.Markup

/-- The bindings in force, the innermost first: a short name, or `none` for the default, and the
namespace. The empty namespace unbinds. -/
abbrev Scope := List (Option String × String)

/-- The namespace of the short name `xml`. -/
def xmlNamespace : String := "http://www.w3.org/XML/1998/namespace"

/-- The namespace of the short name `xmlns`. -/
def xmlnsNamespace : String := "http://www.w3.org/2000/xmlns/"

/-- The bindings outside the root element. -/
def Scope.initial : Scope := [(some "xml", xmlNamespace)]

/-- The namespace of a short name, or of unqualified elements. -/
def Scope.namespace? (s : Scope) (space : Option String) : Option String :=
  (s.lookup space).filter (· != "")

/-- What an attribute of this name binds, if it binds a namespace: a short name, or the default
namespace. -/
def QName.binding? (n : QName) : Option (Option String) :=
  match n.space, n.base with
  | none, "xmlns" => some none
  | some "xmlns", base => some (some base)
  | _, _ => none

/-- Why the short name, or the default namespace, may not be bound to `uri`. The names of
namespaces may not hold the brace that separates them from local names. -/
def bindingProblem? (space : Option String) (uri : String) : Option Problem :=
  if uri = "" && space.isSome then some .undeclaredName
  else if space = some "xmlns" then some .reservedXmlns
  else if uri.toList.contains '\x7d' then some .grammar
  else if space = some "xml" then
    if uri = xmlNamespace then none else some .reservedXml
  else if uri = xmlNamespace || uri = xmlnsNamespace then some .reservedNamespace
  else none

/-- The scope with one more binding. -/
def Scope.bind (s : Scope) (space : Option String) (uri : String) : Except Problem Scope :=
  match bindingProblem? space uri with
  | some p => .error p
  | none => .ok ((space, uri) :: s)

/-- What is wrong with the full names of attributes, of which those in `seen` were read before: each
short name has to be bound, and no two attributes with short names may have one full name. -/
def Scope.namesProblem? (s : Scope) (seen : List (String × String)) : List QName → Option Problem
  | [] => none
  | n :: names =>
    match n.space with
    | none => s.namesProblem? seen names
    | some space =>
      match s.namespace? (some space) with
      | none => some .unboundName
      | some uri =>
        if seen.contains (uri, n.base) then some .duplicateAttribute
        else s.namesProblem? ((uri, n.base) :: seen) names

end VectorLint.Markup
