import VectorLint.Document.Place
import VectorLint.Markup.Salvage
import VectorLint.Report.Failure
import VectorLint.Report.Log

/-!
# Documents

A document is markup that was checked and then built into a tree. Its elements are numbered in
document order, and each has a path that leads to it from the root. Markup that does not pass the
check has no document; the error says why, and under which name the markup was given.
-/

namespace VectorLint

open Markup (Source Tree Fault)

/-- An element of a document: its number in document order, and its place. -/
structure Element where
  index : Nat
  place : Place
  deriving Repr

namespace Element

/-- The local name of an element. -/
def name (e : Element) : String := e.place.tag.name

/-- The path of an element. -/
def path (e : Element) : String := e.place.path

/-- The attributes of an element. -/
def attributes (e : Element) : List Markup.Attribute := e.place.tag.attributes

/-- The value of an attribute. -/
def get? (e : Element) (name : String) : Option String := e.place.tag.get? name

/-- Whether an element has an attribute. -/
def has (e : Element) (name : String) : Bool := (e.get? name).isSome

/-- An element as messages show it. -/
def shown (e : Element) : String := "<" ++ e.name ++ "> at " ++ e.path

end Element

/-- A document. -/
structure Document where
  tree : Tree
  name : Option String

namespace Document

/-- The place of the document. -/
def place (d : Document) : Place := .document d.tree.nodes

/-- The elements of a document, in document order. -/
def elements (d : Document) : List Element :=
  d.place.descendants.zipIdx.map fun (p, i) ↦ ⟨i, p⟩

/-- The root element. -/
def root? (d : Document) : Option Element := d.elements.head?

/-- A name for messages: an absent or empty one is replaced. -/
def shownName (name : Option String) : String :=
  match name with
  | some s => if s = "" then "source" else s
  | none => "source"

/-- What is logged about a document. -/
def record (d : Document) : Log.Record :=
  .debug "svglint.document"
    ("Parsed " ++ shownName d.name ++ " with " ++ toString d.elements.length ++ " elements")

/-- Why markup has no document: a fault of the text in which places are counted, and the name under
which the markup was given. -/
structure Error where
  fault : Fault
  text : Markup.Decoded
  name : Option String

/-- The error as a failure. Character sets that cannot be used are failures of their own kinds. -/
def Error.failure (e : Error) : Failure :=
  let invalid (wording : String) : Failure :=
    ⟨.document, "Invalid XML in " ++ shownName e.name ++ ": " ++ wording⟩
  let optional (text : Option String) : String := (text.map Text.quoted).getD "None"
  match e.fault with
  | .malformed problem offset => invalid (problem.wording ++ e.text.place offset)
  | .unreadEntity name offset =>
    invalid ("undefined entity &" ++ name ++ ";" ++ e.text.place offset)
  | .entityDeclared name systemId publicId =>
    ⟨.document, "Unsafe XML in " ++ shownName e.name ++ ": EntitiesForbidden(name='" ++ name
      ++ "', system_id=" ++ optional systemId ++ ", public_id=" ++ optional publicId ++ ")"⟩
  | .unknownCharset name => ⟨.lookup, "unknown encoding: " ++ name⟩
  | .notTextual name =>
    ⟨.lookup, "'" ++ name
      ++ "' is not a text encoding; use codecs.decode() to handle arbitrary codecs"⟩
  | .wideCharset => ⟨.value, "multi-byte encodings are not supported"⟩
  | .refused name .undefined =>
    ⟨.unicode, "decoding with '" ++ name ++ "' codec failed (UnicodeError: undefined encoding)"⟩
  | .refused name .strict =>
    ⟨.unicode, "decoding with '" ++ name
      ++ "' codec failed (UnicodeError: Unsupported error handling replace)"⟩
  | .refused _ .ascii =>
    ⟨.decoding, "'ascii' codec can't decode byte 0x80 in position 82: ordinal not in range(128)"⟩

/-- The events of markup that passes the check. -/
def check (source : Source) (name : Option String) : Except Error (List Markup.Event) :=
  match source.forCheck with
  | .error fault => .error ⟨fault, source.seen, name⟩
  | .ok text =>
    match text.read with
    | .error fault => .error ⟨fault, text, name⟩
    | .ok events => .ok events

/-- The tree that is built from markup, as far as it can be read. -/
def build (source : Source) : Tree := .ofEvents source.events

/-- The document of markup. -/
def ofSource (source : Source) (name : Option String) : Except Error Document := do
  let _ ← check source name
  return { tree := build source, name }

end Document

end VectorLint
