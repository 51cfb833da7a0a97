import VectorLint.Report.Failure
import VectorLint.Terminal.Action
import VectorLint.Terminal.Emoji
import VectorLint.Terminal.Style

/-!
# Marked text

Text for a terminal may be marked: a tag in brackets opens a style, and a tag that begins with a
slash closes one, the innermost if it names none, and otherwise the innermost of this style. An odd
number of backslashes before a tag makes it plain text, and two of them stand for one. What is left
when the styles are taken away is the plain text. Names of emoji are replaced in each piece between
two tags, and control characters that would move the cursor are left out.

Text that should appear as it is has to be escaped before it is put among marked text.
-/

namespace VectorLint.Terminal.Markup

/-- Whether a character may begin a tag. -/
def isTagStart (c : Char) : Bool := ('a' ≤ c && c ≤ 'z') || c == '#' || c == '/' || c == '@'

/-- The rest of a tag up to its closing bracket. -/
def tagRest? : List Char → Option (List Char)
  | [] => none
  | c :: cs => if c = ']' then some [] else if c = '[' then none else (tagRest? cs).map (c :: ·)

/-- What stands between the brackets of a tag at the head of a text. -/
def tag? : List Char → Option (List Char)
  | '[' :: c :: cs => if isTagStart c then (tagRest? cs).map (c :: ·) else none
  | _ => none

/-- A part of marked text: a character, or a tag with the number of backslashes before it. -/
inductive Token where
  | char (c : Char)
  | tag (backslashes : Nat) (body : List Char)
  deriving DecidableEq, Repr

/-- The tokens of marked text. The first `skip` characters belong to a tag that was read before. -/
def tokensFrom (skip : Nat) : List Char → List Token
  | [] => []
  | c :: cs =>
    match skip with
    | skip + 1 => tokensFrom skip cs
    | 0 =>
      let backslashes := ((c :: cs).takeWhile (· = '\\')).length
      match tag? ((c :: cs).drop backslashes) with
      | some body => .tag backslashes body :: tokensFrom (backslashes + body.length + 1) cs
      | none => .char c :: tokensFrom 0 cs

/-- The tokens of marked text. -/
def tokens (cs : List Char) : List Token := tokensFrom 0 cs

/-- A tag in its brackets. -/
def bracketed (body : List Char) : List Char := '[' :: body ++ [']']

/-! ## Escaping -/

/-- A token in a form that stands for itself: before a tag the backslashes are doubled, and one is
added. -/
def Token.escaped : Token → List Char
  | char c => [c]
  | tag backslashes body => List.replicate (2 * backslashes + 1) '\\' ++ bracketed body

/-- A text in a form in which its tags are no tags. A backslash that ends the text alone is doubled,
since a tag might follow. -/
def escape (s : String) : String :=
  let cs := (tokens s.toList).flatMap Token.escaped
  let endsAlone := cs.getLast? = some '\\' && cs.dropLast.getLast? ≠ some '\\'
  String.ofList (if endsAlone then cs ++ ['\\'] else cs)

/-! ## The plain text -/

/-- A part of marked text whose escapes are resolved: text between tags, or a tag. -/
inductive Part where
  | text (cs : List Char)
  | tag (body : List Char)
  deriving DecidableEq, Repr

/-- The parts that a tag with backslashes before it stands for. -/
def tagParts (backslashes : Nat) (body : List Char) : List Part :=
  let literal := if 2 ≤ backslashes then [.text (List.replicate (backslashes / 2) '\\')] else []
  literal ++ [if backslashes % 2 = 1 then .text (bracketed body) else .tag body]

/-- The parts of tokens, behind some characters, the last of them first. -/
def partsBehind (behind : List Char) : List Token → List Part
  | [] => if behind.isEmpty then [] else [.text behind.reverse]
  | .char c :: ts => partsBehind (c :: behind) ts
  | .tag backslashes body :: ts =>
    (if behind.isEmpty then [] else [.text behind.reverse]) ++ tagParts backslashes body
      ++ partsBehind [] ts

/-- Text between tags with its escaped brackets resolved. -/
def plainBrackets : List Char → List Char
  | '\\' :: '[' :: cs => '[' :: plainBrackets cs
  | c :: cs => c :: plainBrackets cs
  | [] => []

/-- Whether a terminal would not show a character but do something. -/
def isCursorControl (c : Char) : Bool :=
  let n := c.toNat
  n = 7 || n = 8 || n = 11 || n = 12 || n = 13

/-- Text between tags as it is shown. -/
def shownText (cs : List Char) : List Char :=
  (Emoji.replaced (plainBrackets cs)).filter fun c ↦ !isCursorControl c

/-- The name of a tag: what stands before an equals sign. -/
def tagName (body : List Char) : String := String.ofList (body.takeWhile (· ≠ '='))

/-- A tag that is open: its style, what stands behind its equals sign if it has one, and the number
of characters of plain text before it. -/
structure OpenTag where
  style : String
  value : Option (List Char)
  start : Nat

/-- The tag of a body. -/
def OpenTag.ofBody (start : Nat) (body : List Char) : Except Failure OpenTag := do
  let value := match body.dropWhile (· ≠ '=') with
    | [] => none
    | _ :: value => some value
  return ⟨← Style.canonicalText (tagName body), value, start⟩

/-- A stretch of plain text and the style that a tag asks for it. -/
structure Stretch where
  start : Nat
  stop : Nat
  style : String

/-- Whether a tag is that of an action. -/
def OpenTag.isAction (t : OpenTag) : Bool := t.style.toList.head? = some '@'

/-- The stretch of a tag that ends at `stop`. What stands behind its equals sign is part of its
style. -/
def OpenTag.stretch (t : OpenTag) (stop : Nat) : Stretch :=
  ⟨t.start, stop, t.style ++ match t.value with
    | some value => " " ++ String.ofList value
    | none => ""⟩

/-- The stretches of a tag that is closed at `stop`. The tag of an action has to tell what to call;
it asks for no style. -/
def OpenTag.close (t : OpenTag) (stop : Nat) : Except Failure (List Stretch) :=
  if t.isAction then
    let value := t.value.getD []
    if Action.isCall value then .ok []
    else .error ⟨.markup, "error parsing '" ++ String.ofList value ++ "'"⟩
  else .ok [t.stretch stop]

/-- The plain text of parts behind `length` characters inside open tags, the innermost first, and
the stretches of the tags. Tags that are still open at the end of the text end there. -/
def readParts (length : Nat) (opened : List OpenTag) :
    List Part → Except Failure (List Char × List Stretch)
  | [] => .ok ([], opened.map (·.stretch length))
  | .text cs :: parts => do
    let shown := shownText cs
    let (text, stretches) ← readParts (length + shown.length) opened parts
    return (shown ++ text, stretches)
  | .tag ('/' :: body) :: parts => do
    let name := tagName body
    if Text.isBlankText name then
      match opened with
      | [] => throw ⟨.markup, "closing tag '[/]' has nothing to close"⟩
      | t :: opened =>
        let closed ← t.close length
        let (text, stretches) ← readParts length opened parts
        return (text, closed ++ stretches)
    else
      let style ← Style.canonicalText name
      match opened.find? (·.style = style) with
      | some t =>
        let closed ← t.close length
        let (text, stretches) ← readParts length (opened.eraseP (·.style = style)) parts
        return (text, closed ++ stretches)
      | none =>
        throw ⟨.markup, "closing tag '" ++ String.ofList (bracketed ('/' :: body))
          ++ "' doesn't match any open tag"⟩
  | .tag body :: parts => do readParts length ((← OpenTag.ofBody length body) :: opened) parts

/-- The plain text of marked text, and the stretches of its tags. -/
def read (s : String) : Except Failure (List Char × List Stretch) :=
  readParts 0 [] (partsBehind [] (tokens s.toList))

/-- The plain text of marked text. -/
def plain (s : String) : Except Failure (List Char) := (read s).map (·.1)

/-- Whether some character of a stretch is shown in a text that is set in several lines. -/
def Stretch.isShown (cs : List Char) (s : Stretch) : Bool :=
  ((cs.drop s.start).take (s.stop - s.start)).any (· ≠ '\n')

/-- The failure of the styles of a text, if it has one. A text that stays in one piece asks for the
styles of all stretches, also of those without characters. -/
def stylesHold (cs : List Char) (isWhole : Bool) (stretches : List Stretch) : Except Failure Unit :=
  stretches.forM fun s ↦ do
    if isWhole || s.isShown cs then
      let _ ← Style.canonicalText s.style

end VectorLint.Terminal.Markup
