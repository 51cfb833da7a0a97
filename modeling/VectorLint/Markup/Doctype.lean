import VectorLint.Markup.Declaration
import VectorLint.Markup.Literal
import VectorLint.Markup.Remark
import VectorLint.Markup.Tag

/-!
# The document type

Between the declaration of a document and its root element a document type may stand. It may refer
to a definition elsewhere and hold declarations of its own. Declarations of entities are refused
where they are read. Of the others, only those of attributes matter later: they say which values
are lists of names, and which attributes bind a namespace by default. References to parameter
entities are not followed. After one, unless the document is declared to stand alone, declarations
are no longer looked at, and entities that nothing declares are no fault.

A thorough reading looks at all declarations, also behind such a reference, refuses every entity,
and reads defaults with faults as far as it can: it is the reading of a document that was checked.
Content models must not be nested too deeply for it.

The parts of a document type are tokens, and a grammar state says which tokens may come next. It is
a finite automaton but for the brackets of a content model.
-/

namespace VectorLint.Markup

/-- A declaration of an attribute: its element and its name, whether its value is a text rather than
a list of names, and its default value if it has one. -/
structure AttributeDeclaration where
  element : String
  name : String
  isText : Bool
  value : Option String
  deriving DecidableEq, Repr

/-- What is known of a document type. -/
structure Doctype where
  /-- All declarations are looked at. -/
  isThorough : Bool
  /-- The document is declared to stand alone. -/
  standalone : Bool
  /-- There may be declarations elsewhere. -/
  hasExternal : Bool
  /-- Declarations are no longer looked at. -/
  isSkipping : Bool
  attributes : List AttributeDeclaration
  deriving DecidableEq, Repr

namespace Doctype

/-- What is known at the beginning of a document. -/
def initial (isThorough : Bool) : Doctype := ⟨isThorough, false, false, false, []⟩

/-- Whether an entity that is not declared here may be declared elsewhere. -/
def isPartial (d : Doctype) : Bool := d.hasExternal && !d.standalone

/-- Whether a parenthesis, a name or a bracket of a content model is marked as repeated. -/
inductive Mark where
  | none
  | star
  | other
  deriving DecidableEq, Repr

/-- The tokens of a prolog. -/
inductive Token where
  | space
  | remark (r : Remark)
  /-- `<!` and a keyword. -/
  | opening (keyword : String)
  | close
  | percent
  | parameterReference
  | name (s : String)
  /-- A name with one colon inside. -/
  | qualifiedName (s : String)
  /-- Name characters in any order. -/
  | nameToken (s : String)
  | markedName
  | literal (text : List Char)
  /-- `#` and a name. -/
  | pound (s : String)
  | openBracket
  | closeBracket
  | openParenthesis
  | closeParenthesis (mark : Mark)
  | comma
  | bar
  /-- The mark of a conditional section, which may not stand in a document. -/
  | conditional
  deriving DecidableEq, Repr

/-- What is known of an entity while its declaration is read. An entity without a name is one whose
declaration is not refused: that of a predefined entity, or one that is not looked at. -/
structure Entity where
  name : Option String
  publicId : Option String
  systemId : Option String
  deriving DecidableEq, Repr

/-- What may come next in a prolog. -/
inductive Grammar where
  /-- Nothing has been read. -/
  | opening
  | beforeDoctype
  | afterDoctype
  | doctypeName
  | doctypeIdentity
  | doctypePublic
  | doctypeSystem
  | doctypeSubset
  | doctypeEnd
  /-- Between the declarations. -/
  | subset
  | entityName
  | parameterName
  | entityValue (isParameter : Bool) (e : Entity)
  | entityPublic (isParameter : Bool) (e : Entity)
  | entitySystem (isParameter : Bool) (e : Entity)
  | entityEnd (isParameter : Bool) (e : Entity)
  | entityNotation (e : Entity)
  | notationName
  | notationIdentity
  | notationPublic
  | notationSystem
  | notationEnd
  | listElement
  | listName (element : String)
  | listType (element name : String)
  | listToken (element name : String) (isNotation : Bool)
  | listNext (element name : String) (isNotation : Bool)
  | listNotation (element name : String)
  | listDefault (element name : String) (isText : Bool)
  | listFixed (element name : String) (isText : Bool)
  | elementName
  | elementContent
  | groupFirst
  | mixedNext
  | mixedName
  | mixedEnd
  /-- An item of a group; the separators of the open groups, the innermost first. -/
  | groupItem (separators : List (Option Char))
  | groupNext (separators : List (Option Char))
  /-- The end of a declaration. -/
  | declarationEnd
  deriving DecidableEq, Repr

/-- The fault of a token that may not stand where it stands. -/
def misplaced (start : Nat) : Token → Fault
  | .parameterReference => .malformed .parameterEntity start
  | .remark (.declaration _) => .malformed .misplacedDeclaration start
  | _ => .malformed .grammar start

/-- The state behind a closing parenthesis of a content model. -/
def Grammar.closed : List (Option Char) → Grammar
  | [] => .declarationEnd
  | separators => .groupNext separators

/-- The refusal of an entity, if it has a name. -/
def Entity.refuse (e : Entity) : Except Fault Unit :=
  match e.name with
  | some name => .error (.entityDeclared name e.systemId e.publicId)
  | none => .ok ()

/-- A public identifier that stands at `start`. -/
def readPublic (start : Nat) (text : List Char) : Except Fault String :=
  match Literal.publicFault? (start + 1) text with
  | some offset => .error (.malformed .publicIdentifier offset)
  | none => .ok (Literal.publicText text)

/-- The types of attributes whose values are lists of names. -/
def listTypes : List String :=
  ["ID", "IDREF", "IDREFS", "ENTITY", "ENTITIES", "NMTOKEN", "NMTOKENS"]

/-- A declaration of an attribute added to the others, if declarations are looked at. -/
def declare (d : Doctype) (element name : String) (isText : Bool) (value : Option String) :
    Doctype :=
  if d.isSkipping then d
  else { d with attributes := d.attributes ++ [⟨element, name, isText, value⟩] }

/-- A declaration of an attribute with a default value that stands at `start`. -/
def declareDefault (d : Doctype) (w : Writing) (element name : String) (isText : Bool) (start : Nat)
    (text : List Char) : Except Fault Doctype :=
  let withValue (pieces : List Piece) : Doctype :=
    d.declare element name isText (some (Piece.value isText pieces))
  if d.isSkipping then .ok d
  else if d.isThorough then
    match Literal.salvaged? w none text with
    | some pieces => .ok (withValue pieces)
    | none => .error (.malformed .invalidToken start)
  else
    match Literal.fault? w false d.isPartial start (start + 1) .text text with
    | some f => .error f
    | none => .ok (withValue (Literal.pieces w none text))

/-- The most parentheses that a thorough reading opens in a content model. -/
def maxDepth : Nat := 256

/-- The next token of a prolog, which stands at `start`. -/
def accept (d : Doctype) (w : Writing) (g : Grammar) (start : Nat) (t : Token) :
    Except Fault (Doctype × Grammar) :=
  match g, t with
  | .opening, .space => .ok (d, .beforeDoctype)
  | _, .space => .ok (d, g)
  | .opening, .remark (.declaration body) =>
    match Declaration.read (start + 5) body with
    | .error offset => .error (.malformed .malformedDeclaration offset)
    | .ok declaration => .ok ({ d with standalone := declaration.standalone }, .beforeDoctype)
  | _, .remark (.declaration body) => .error (misplaced start (.remark (.declaration body)))
  | .opening, .remark _ => .ok (d, .beforeDoctype)
  | .beforeDoctype, .remark _ => .ok (d, g)
  | .afterDoctype, .remark _ => .ok (d, g)
  | .subset, .remark _ => .ok (d, g)
  | .opening, .opening "DOCTYPE" => .ok (d, .doctypeName)
  | .beforeDoctype, .opening "DOCTYPE" => .ok (d, .doctypeName)
  | .doctypeName, .name _ => .ok (d, .doctypeIdentity)
  | .doctypeName, .qualifiedName _ => .ok (d, .doctypeIdentity)
  | .doctypeIdentity, .openBracket => .ok (d, .subset)
  | .doctypeIdentity, .close => .ok (d, .afterDoctype)
  | .doctypeIdentity, .name "SYSTEM" => .ok (d, .doctypeSystem)
  | .doctypeIdentity, .name "PUBLIC" => .ok (d, .doctypePublic)
  | .doctypePublic, .literal text => do
    let _ ← readPublic start text
    return ({ d with hasExternal := true }, .doctypeSystem)
  | .doctypeSystem, .literal _ => .ok ({ d with hasExternal := true }, .doctypeSubset)
  | .doctypeSubset, .openBracket => .ok (d, .subset)
  | .doctypeSubset, .close => .ok (d, .afterDoctype)
  | .doctypeEnd, .close => .ok (d, .afterDoctype)
  | .subset, .opening "ENTITY" => .ok (d, .entityName)
  | .subset, .opening "ATTLIST" => .ok (d, .listElement)
  | .subset, .opening "ELEMENT" => .ok (d, .elementName)
  | .subset, .opening "NOTATION" => .ok (d, .notationName)
  | .subset, .parameterReference =>
    .ok ({ d with hasExternal := true, isSkipping := !d.standalone && !d.isThorough }, .subset)
  | .subset, .closeBracket => .ok (d, .doctypeEnd)
  | .entityName, .percent => .ok (d, .parameterName)
  | .entityName, .name s =>
    let isRead := d.isThorough || !d.isSkipping && (predefined? s).isNone
    .ok (d, .entityValue false ⟨if isRead then some s else none, none, none⟩)
  | .parameterName, .name s =>
    .ok (d, .entityValue true ⟨if d.isSkipping then none else some s, none, none⟩)
  | .entityValue p e, .name "SYSTEM" => .ok (d, .entitySystem p e)
  | .entityValue p e, .name "PUBLIC" => .ok (d, .entityPublic p e)
  | .entityValue _ e, .literal text => do
    e.refuse
    match Literal.fault? w true d.isPartial start (start + 1) .text text with
    | some f => if d.isSkipping then return (d, .declarationEnd) else throw f
    | none => return (d, .declarationEnd)
  | .entityPublic p e, .literal text => do
    return (d, .entitySystem p { e with publicId := ← readPublic start text })
  | .entitySystem p e, .literal text =>
    .ok (d, .entityEnd p { e with systemId := some (String.ofList text) })
  | .entityEnd _ e, .close => do
    e.refuse
    return (d, .subset)
  | .entityEnd false e, .name "NDATA" => .ok (d, .entityNotation e)
  | .entityNotation e, .name _ => do
    e.refuse
    return (d, .declarationEnd)
  | .notationName, .name _ => .ok (d, .notationIdentity)
  | .notationIdentity, .name "SYSTEM" => .ok (d, .notationSystem)
  | .notationIdentity, .name "PUBLIC" => .ok (d, .notationPublic)
  | .notationPublic, .literal text => do
    let _ ← readPublic start text
    return (d, .notationEnd)
  | .notationSystem, .literal _ => .ok (d, .declarationEnd)
  | .notationEnd, .literal _ => .ok (d, .declarationEnd)
  | .notationEnd, .close => .ok (d, .subset)
  | .listElement, .name s => .ok (d, .listName s)
  | .listElement, .qualifiedName s => .ok (d, .listName s)
  | .listName _, .close => .ok (d, .subset)
  | .listName element, .name s => .ok (d, .listType element s)
  | .listName element, .qualifiedName s => .ok (d, .listType element s)
  | .listType element name, .openParenthesis => .ok (d, .listToken element name false)
  | .listType element name, .name s =>
    if s = "CDATA" then .ok (d, .listDefault element name true)
    else if s = "NOTATION" then .ok (d, .listNotation element name)
    else if listTypes.contains s then .ok (d, .listDefault element name false)
    else .error (misplaced start t)
  | .listNotation element name, .openParenthesis => .ok (d, .listToken element name true)
  | .listToken element name n, .name _ => .ok (d, .listNext element name n)
  | .listToken element name false, .qualifiedName _ => .ok (d, .listNext element name false)
  | .listToken element name false, .nameToken _ => .ok (d, .listNext element name false)
  | .listNext element name _, .closeParenthesis .none => .ok (d, .listDefault element name false)
  | .listNext element name n, .bar => .ok (d, .listToken element name n)
  | .listDefault element name isText, .pound s =>
    if s = "FIXED" then .ok (d, .listFixed element name isText)
    else if s = "IMPLIED" || s = "REQUIRED" then
      .ok (d.declare element name isText none, .listName element)
    else .error (misplaced start t)
  | .listDefault element name isText, .literal text => do
    return (← d.declareDefault w element name isText start text, .listName element)
  | .listFixed element name isText, .literal text => do
    return (← d.declareDefault w element name isText start text, .listName element)
  | .elementName, .name _ => .ok (d, .elementContent)
  | .elementName, .qualifiedName _ => .ok (d, .elementContent)
  | .elementContent, .name s =>
    if s = "EMPTY" || s = "ANY" then .ok (d, .declarationEnd) else .error (misplaced start t)
  | .elementContent, .openParenthesis => .ok (d, .groupFirst)
  | .groupFirst, .pound "PCDATA" => .ok (d, .mixedNext)
  | .groupFirst, .openParenthesis => .ok (d, .groupItem [none, none])
  | .groupFirst, .name _ => .ok (d, .groupNext [none])
  | .groupFirst, .qualifiedName _ => .ok (d, .groupNext [none])
  | .groupFirst, .markedName => .ok (d, .groupNext [none])
  | .mixedNext, .closeParenthesis .none => .ok (d, .declarationEnd)
  | .mixedNext, .closeParenthesis .star => .ok (d, .declarationEnd)
  | .mixedNext, .bar => .ok (d, .mixedName)
  | .mixedName, .name _ => .ok (d, .mixedEnd)
  | .mixedName, .qualifiedName _ => .ok (d, .mixedEnd)
  | .mixedEnd, .closeParenthesis .star => .ok (d, .declarationEnd)
  | .mixedEnd, .bar => .ok (d, .mixedName)
  | .groupItem separators, .openParenthesis =>
    if d.isThorough && separators.length ≥ maxDepth then .error (misplaced start t)
    else .ok (d, .groupItem (none :: separators))
  | .groupItem separators, .name _ => .ok (d, .groupNext separators)
  | .groupItem separators, .qualifiedName _ => .ok (d, .groupNext separators)
  | .groupItem separators, .markedName => .ok (d, .groupNext separators)
  | .groupNext (_ :: outer), .closeParenthesis _ => .ok (d, .closed outer)
  | .groupNext (separator :: outer), .comma =>
    if separator = some '|' then .error (misplaced start t)
    else .ok (d, .groupItem (some ',' :: outer))
  | .groupNext (separator :: outer), .bar =>
    if separator = some ',' then .error (misplaced start t)
    else .ok (d, .groupItem (some '|' :: outer))
  | .declarationEnd, .close => .ok (d, .subset)
  | _, t => .error (misplaced start t)

end Doctype

end VectorLint.Markup
