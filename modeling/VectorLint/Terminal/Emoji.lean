import VectorLint.Terminal.Emoji.Table
import VectorLint.Text.Blank
import VectorLint.Text.Lowercase
import VectorLint.Text.Pieces

/-!
# Emoji in marked text

A name between colons stands for an emoji, whatever the case of its letters. The name ends at the
next colon and holds no blank. Before the closing colon the name may ask for the form of an emoji or
of a text. A name that is not in the table stands for itself, together with its colons, so its
closing colon does not open another name.
-/

namespace VectorLint.Terminal.Emoji

/-- The names with their emoji. -/
def entries : List (String × String) :=
  tableLines.flatMap fun line ↦ pairs ((Text.pieces ' ' line.toList).map String.ofList)
where
  /-- Words two by two. -/
  pairs : List String → List (String × String)
    | name :: emoji :: rest => (name, emoji) :: pairs rest
    | _ => []

/-- The form that a name asks for. -/
inductive Form where
  | unsaid
  | emoji
  | text
  deriving DecidableEq, Repr

/-- A form as it is written behind a name. -/
def Form.written : Form → List Char
  | unsaid => []
  | emoji => ['-', 'e', 'm', 'o', 'j', 'i']
  | text => ['-', 't', 'e', 'x', 't']

/-- The variation selector that asks for a form. -/
def Form.selector : Form → List Char
  | unsaid => []
  | emoji => ['\ufe0f']
  | text => ['\ufe0e']

/-- The form at the head of a text, if a colon is behind it. -/
def closing? (cs : List Char) : Option Form :=
  [Form.emoji, .text, .unsaid].find? fun f ↦ (f.written ++ [':']).isPrefixOf cs

/-- The name and the form at the head of a text, up to the closing colon. -/
def name? : List Char → Option (List Char × Form)
  | [] => none
  | c :: cs =>
    match closing? (c :: cs) with
    | some form => some ([], form)
    | none => if Text.isBlank c then none else (name? cs).map fun (name, form) ↦ (c :: name, form)

/-- A text with its emoji in place of their names. The first `skip` characters belong to a name that
was read before. -/
def replacedFrom (skip : Nat) : List Char → List Char
  | [] => []
  | c :: cs =>
    match skip with
    | skip + 1 => replacedFrom skip cs
    | 0 =>
      if c = ':' then
        match name? cs with
        | none => c :: replacedFrom 0 cs
        | some (name, form) =>
          let code := name ++ form.written ++ [':']
          let shown := match entries.lookup (Text.lowercase (String.ofList name)) with
            | some emoji => emoji.toList ++ form.selector
            | none => ':' :: code
          shown ++ replacedFrom code.length cs
      else c :: replacedFrom 0 cs

/-- A text with its emoji in place of their names. -/
def replaced (cs : List Char) : List Char := replacedFrom 0 cs

end VectorLint.Terminal.Emoji
