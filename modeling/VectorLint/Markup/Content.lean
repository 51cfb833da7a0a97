import VectorLint.Markup.Doctype
import VectorLint.Markup.Namespace

/-!
# Tokens inside the root element

Inside the root element the characters of a document form tags, references, remarks and text. Text
may also stand in a section in which neither tags nor references are recognised. In text a carriage
return, or one with a line feed, is a line feed, and `]]>` may not stand.
-/

namespace VectorLint.Markup.Content

/-- The tokens of an element's content. -/
inductive Token where
  | start (tag : StartTag)
  | close (name : String)
  | reference (r : Reference)
  | remark (r : Remark)
  | text (cs : List Char)
  deriving DecidableEq, Repr

/-- What has been read of a token. -/
inductive State where
  /-- Text, with the number of closing brackets read last, at most two, and whether the last
  character is a carriage return. -/
  | text (brackets : Nat) (afterReturn : Bool)
  /-- `<`. -/
  | angle
  /-- `<!`. -/
  | bang
  | remark (s : Remark.Start)
  | tag (s : StartTag.Start)
  | endTag (s : EndTag)
  | reference (r : Reference.Start)
  /-- `<![` and what was read behind it, with the last character first. Whether a section begins is
  seen when as many units were read as its mark has characters. -/
  | sectionMark (read : List Char)
  /-- The text of a section, with the number of closing brackets not yet taken as text, and whether
  the last character is a carriage return. -/
  | characterData (brackets : Nat) (afterReturn : Bool)
  deriving DecidableEq, Repr

/-- Text at the beginning of a token. -/
def State.initial : State := .text 0 false

/-- What stands behind `<![` where a section begins. -/
def sectionName : List Char := "CDATA[".toList

/-- How many characters two texts begin with in common. -/
def agreement : List Char → List Char → Nat
  | a :: as, b :: bs => if a = b then agreement as bs + 1 else 0
  | _, _ => 0

/-- The state that a move leads to, and the token it completes. An error is the place of the
character that cannot stand where it stands. -/
abbrev Next := Except Nat (State × Option Token)

/-- What the move of a token means for the text around it. -/
def Next.ofMove {σ α : Type} (offset : Nat) (state : σ → State) (token : α → Token) :
    Move σ α → Next
  | .more s => .ok (state s, none)
  | .done a => .ok (.initial, some (token a))
  | .invalid => .error offset

/-- The next character of text. -/
def text (offset : Nat) (brackets : Nat) (afterReturn : Bool) (c : Char) : Next :=
  if c = '<' then .ok (.angle, none)
  else if c = '&' then .ok (.reference .empty, none)
  else if c = '>' && brackets == 2 then .error offset
  else if c = '\n' && afterReturn then .ok (.initial, none)
  else if c = '\r' then .ok (.text 0 true, some (.text ['\n']))
  else if c = ']' then .ok (.text (min 2 (brackets + 1)) false, some (.text [c]))
  else if isLegal c then .ok (.initial, some (.text [c]))
  else .error offset

/-- The next character of a section. -/
def characterData (offset : Nat) (brackets : Nat) (afterReturn : Bool) (c : Char) : Next :=
  let pending := List.replicate brackets ']'
  if c = ']' then
    if brackets < 2 then .ok (.characterData (brackets + 1) false, none)
    else .ok (.characterData 2 false, some (.text [c]))
  else if c = '>' && brackets == 2 then .ok (.initial, none)
  else if c = '\n' && afterReturn then .ok (.characterData 0 false, none)
  else if c = '\r' then .ok (.characterData 0 true, some (.text (pending ++ ['\n'])))
  else if isLegal c then .ok (.characterData 0 false, some (.text (pending ++ [c])))
  else .error offset

/-- The next character of an element's content, which stands at `offset`. -/
def State.step (w : Writing) (offset : Nat) (s : State) (c : Char) : Next :=
  match s with
  | .text brackets afterReturn => Content.text offset brackets afterReturn c
  | .angle =>
    if w.isNameStart c then .ok (.tag (.name (.first c)), none)
    else if c = '!' then .ok (.bang, none)
    else if c = '?' then .ok (.remark .mark, none)
    else if c = '/' then .ok (.endTag .empty, none)
    else .error offset
  | .bang =>
    if c = '-' then .ok (.remark .hyphen, none)
    else if c = '[' then .ok (.sectionMark [], none)
    else .error offset
  | .remark r => .ofMove offset .remark .remark (r.step w c)
  | .tag t => .ofMove offset .tag .start (t.step w offset c)
  | .endTag t => .ofMove offset .endTag .close (t.step w c)
  | .reference r => .ofMove offset .reference .reference (r.step w c)
  | .sectionMark read =>
    let read := c :: read
    if (read.map w.size).foldr (· + ·) 0 < sectionName.length then .ok (.sectionMark read, none)
    else
      let same := agreement read.reverse sectionName
      if same = sectionName.length then .ok (.characterData 0 false, none)
      else .error (offset + 1 + same - read.length)
  | .characterData brackets afterReturn => Content.characterData offset brackets afterReturn c

end VectorLint.Markup.Content
