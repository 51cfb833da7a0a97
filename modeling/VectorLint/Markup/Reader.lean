import VectorLint.Markup.Content
import VectorLint.Markup.Event
import VectorLint.Markup.Prolog

/-!
# Reading a document

A document is read from its first character to its last, in three modes: before the root element,
inside it, and behind it. The first fault ends the reading; a document without a fault is the list
of its events. What the end of the text means depends on how it ends: the text may be complete, or
its octets may go on with something that is no character.
-/

namespace VectorLint.Markup

/-- How a text ends. -/
inductive Ending where
  | complete
  /-- Octets follow that are no character, `unread` units of them; the first may be one that begins
  characters. -/
  | malformed (isLead : Bool) (unread : Nat)
  /-- A character begins whose last octets are missing. -/
  | cut (unread : Nat)
  /-- One octet follows in an encoding that takes two for a character. -/
  | half
  deriving DecidableEq, Repr

/-- What was read of a document before its encoding changed: how many characters it is, and the
characters as which it counts where places are given later. -/
structure Front where
  size : Nat
  counted : List Char
  deriving DecidableEq, Repr

/-- Characters, how they are written, and how they end. -/
structure Decoded where
  front : Front
  chars : List Char
  writing : Writing
  ending : Ending
  deriving DecidableEq, Repr

/-- A place behind the front, as messages give it. -/
def Decoded.place (text : Decoded) (offset : Nat) : String :=
  Markup.place (text.front.counted ++ text.chars.drop text.front.size)
    (text.front.counted.length + (offset - text.front.size))

/-- An element that is open: its name as written, and the namespaces inside it. -/
structure OpenElement where
  name : String
  scope : Scope
  deriving DecidableEq, Repr

/-- Where a reader is. -/
inductive Mode where
  | prolog (d : Doctype) (g : Doctype.Grammar) (s : Prolog.State)
  /-- Inside the root element; the open elements, the innermost first. -/
  | content (d : Doctype) (opened : List OpenElement) (s : Content.State)
  | epilog (s : Prolog.State)
  deriving DecidableEq, Repr

/-- A reader: how the characters are written, the number of characters read, the place where the
current token begins, and the events with the last one first. -/
structure Reader where
  writing : Writing
  offset : Nat
  start : Nat
  mode : Mode
  events : List Event
  deriving DecidableEq, Repr

namespace Reader

/-- A reader that has read `offset` characters that do not count. -/
def initial (w : Writing) (isThorough : Bool) (offset : Nat) : Reader :=
  ⟨w, offset, offset, .prolog (.initial isThorough) .opening .idle, []⟩

/-- One more character before the root element. The character may end a token and is then read
again, at most `again` times. -/
def stepProlog (again : Nat) (r : Reader) (d : Doctype) (g : Doctype.Grammar) (s : Prolog.State)
    (c : Char) : Except Fault Reader :=
  let start := if s = .idle then r.offset else r.start
  let next := r.offset + 1
  match s.step r.writing c with
  | .more s => .ok { r with offset := next, start, mode := .prolog d g s }
  | .done t => do
    let (d, g) ← d.accept r.writing g start t
    return { r with offset := next, start, mode := .prolog d g .idle }
  | .root =>
    match g with
    | .opening | .beforeDoctype | .afterDoctype =>
      if !r.writing.isNameStart c then .error (.malformed .invalidToken r.offset)
      else .ok { r with offset := next, start, mode := .content d [] (.tag (.name (.first c))) }
    | _ => .error (.malformed .grammar start)
  | .invalid back => .error (.malformed .invalidToken (r.offset - back))
  | .before t s back =>
    match again with
    | 0 => .error (.malformed .invalidToken r.offset)
    | again + 1 => do
      let (d, g) ← d.accept r.writing g start t
      stepProlog again { r with start := r.offset - back } d g s c

/-- A token inside the root element, which begins at `r.start`: the elements that are open behind
it, and its events, the last first. -/
def accept (r : Reader) (d : Doctype) (opened : List OpenElement) (t : Content.Token) :
    Except Fault (List OpenElement × List Event) :=
  match t with
  | .start tag => do
    let scope := match opened with
      | [] => Scope.initial
      | e :: _ => e.scope
    let (scope, event) ← d.enter scope r.start tag
    if tag.isEmpty then return (opened, [.closing, event])
    return (⟨tag.name.text, scope⟩ :: opened, [event])
  | .close name =>
    match opened with
    | e :: opened =>
      if e.name = name then .ok (opened, [.closing])
      else .error (.malformed .mismatchedTag (r.start + 2))
    | [] => .error (.malformed .mismatchedTag (r.start + 2))
  | .reference (.entity name) =>
    match predefined? name with
    | some c => .ok (opened, [.text [c]])
    | none =>
      if d.isPartial then .error (.unreadEntity name r.start)
      else .error (.malformed .undefinedEntity r.start)
  | .reference (.number n) =>
    match numbered? n with
    | some c => .ok (opened, [.text [c]])
    | none => .error (.malformed .invalidCharacterNumber r.start)
  | .remark (.declaration _) => .error (.malformed .misplacedDeclaration r.start)
  | .remark _ => .ok (opened, [.remark])
  | .text cs => .ok (opened, [.text cs])

/-- One more character inside the root element. The root element's end ends the mode. -/
def stepContent (r : Reader) (d : Doctype) (opened : List OpenElement) (s : Content.State)
    (c : Char) : Except Fault Reader :=
  let start := match s with
    | .text _ _ => r.offset
    | .characterData _ _ => r.offset
    | _ => r.start
  match s.step r.writing r.offset c with
  | .error offset => .error (.malformed .invalidToken offset)
  | .ok (s, none) => .ok { r with offset := r.offset + 1, start, mode := .content d opened s }
  | .ok (s, some t) => do
    let (opened, events) ← accept { r with start } d opened t
    let mode := if opened.isEmpty then .epilog .idle else .content d opened s
    return { r with offset := r.offset + 1, start, mode, events := events ++ r.events }

/-- One more character behind the root element, where only white space and remarks may stand. -/
def stepEpilog (r : Reader) (s : Prolog.State) (c : Char) : Except Fault Reader :=
  let start := if s = .idle then r.offset else r.start
  let next := r.offset + 1
  let misplaced : Except Fault Reader := .error (.malformed .contentAfterRoot start)
  match s.step r.writing c with
  | .more s => .ok { r with offset := next, start, mode := .epilog s }
  | .done .space => .ok { r with offset := next, start, mode := .epilog .idle }
  | .done (.remark (.declaration _)) => misplaced
  | .done (.remark _) => .ok { r with offset := next, start, mode := .epilog .idle }
  | .invalid back => .error (.malformed .invalidToken (r.offset - back))
  | _ => misplaced

/-- One more character. -/
def step (r : Reader) (c : Char) : Except Fault Reader :=
  match r.mode with
  | .prolog d g s => r.stepProlog 3 d g s c
  | .content d opened s => r.stepContent d opened s c
  | .epilog s => r.stepEpilog s c

/-- A character that may stand in any name and begin it. -/
def letter : Char := '一'

/-- A character that may stand nowhere. -/
def noCharacter : Char := '\x00'

/-- The fault of octets that are no character. They stand where the character `c` could stand as
well, and if it could not, that is the fault. Whether a section begins is seen by the number of
units. -/
def interrupted (r : Reader) (c : Char) (unread : Nat) (otherwise : Reader → Fault) : Fault :=
  match r.mode with
  | .content _ _ (.sectionMark read) =>
    if (read.map r.writing.size).foldr (· + ·) 0 + unread < Content.sectionName.length then
      .malformed .unclosedToken r.start
    else
      let same := Content.agreement read.reverse Content.sectionName
      .malformed .invalidToken (r.offset - read.length + same)
  | _ =>
    match r.step c with
    | .error f => f
    | .ok r => otherwise r

/-- The end of a text whose characters were all read, but perhaps for one octet. A token that ends
here takes the octet with it. -/
def close (r : Reader) (isHalf : Bool) : Except Fault (List Event) :=
  let unclosed : Except Fault (List Event) := .error (.malformed .unclosedToken r.start)
  let leftOver : Except Fault (List Event) := .error (.malformed .unclosedToken r.offset)
  match r.mode with
  | .prolog d g s =>
    let missing : Except Fault (List Event) := .error (.malformed .noElement r.offset)
    if s = .idle then if isHalf then leftOver else missing
    else
      match s.atEnd? isHalf with
      | some t => do
        let _ ← d.accept r.writing g r.start t
        missing
      | none => unclosed
  | .content _ _ (.text brackets afterReturn) =>
    if isHalf && brackets == 0 && !afterReturn then leftOver
    else .error (.malformed .noElement (if afterReturn then r.offset - 1 else r.offset))
  | .content _ _ (.characterData brackets afterReturn) =>
    .error (.malformed .unclosedCharacterData (r.offset - if afterReturn then 1 else brackets))
  | .content _ _ _ => unclosed
  | .epilog s =>
    if s = .idle then if isHalf then leftOver else .ok r.events.reverse
    else if (s.atEnd? isHalf).isSome then .error (.malformed .contentAfterRoot r.start)
    else unclosed

/-- The end of the text. -/
def finish (r : Reader) : Ending → Except Fault (List Event)
  | .complete => r.close false
  | .half => r.close true
  | .malformed isLead unread =>
    .error (r.interrupted (if isLead then letter else noCharacter) unread
      fun _ ↦ .malformed .invalidToken r.offset)
  | .cut unread =>
    .error (r.interrupted letter unread fun r ↦ .malformed .cutCharacter r.start)

/-- A reader before some characters, and the characters that it is to read. A byte order mark at
the beginning takes a column but is not read. -/
def before (w : Writing) (isThorough : Bool) : List Char → Reader × List Char
  | '\ufeff' :: cs => (initial w isThorough 1, cs)
  | cs => (initial w isThorough 0, cs)

/-- The reader where it stops, and the fault that stops it. -/
def run (r : Reader) : List Char → Reader × Option Fault
  | [] => (r, none)
  | c :: cs =>
    match r.step c with
    | .ok r => r.run cs
    | .error f => (r, some f)

end Reader

/-- The events of a document, or its first fault. -/
def Decoded.read (text : Decoded) : Except Fault (List Event) :=
  let (r, cs) := Reader.before text.writing false text.chars
  match r.run cs with
  | (r, none) => r.finish text.ending
  | (_, some f) => .error f

/-- The events of a document as far as it can be read thoroughly, and its first fault. It makes no
difference how the characters were written. -/
def readPart (cs : List Char) : List Event × Option Fault :=
  let (r, cs) := Reader.before .octets true cs
  let (r, f) := r.run cs
  (r.events.reverse, f)

end VectorLint.Markup
