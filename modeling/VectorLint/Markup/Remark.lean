import VectorLint.Markup.Move
import VectorLint.Markup.Writing

/-!
# Comments and processing instructions

Comments and processing instructions may stand anywhere between other parts of a document. Their
text has no meaning for the elements around them. A comment may not hold two hyphens in a row. A
processing instruction begins with a name, its target; the target `xml` marks the declaration at the
start of a document and may not be written with capital letters.
-/

namespace VectorLint.Markup

/-- What a remark turned out to be. -/
inductive Remark where
  | comment
  | instruction
  /-- The declaration of a document, with the text between its target and its end. -/
  | declaration (body : List Char)
  deriving DecidableEq, Repr

/-- What has been read of a remark. Texts are kept with the last character first. -/
inductive Remark.Start where
  /-- One hyphen behind `<!`. -/
  | hyphen
  | commentText
  /-- One hyphen in the text of a comment. -/
  | commentHyphen
  | commentHyphens
  /-- `<?`. -/
  | mark
  | name (read : List Char)
  /-- A question mark right behind the target. -/
  | nameEnd (target : List Char)
  | body (target read : List Char)
  /-- A question mark in the text of an instruction. -/
  | bodyEnd (target read : List Char)
  deriving DecidableEq, Repr

/-- Whether a target, written backwards, is `xml` in some other case. -/
def isMisspelledTarget (target : List Char) : Bool :=
  target != ['l', 'm', 'x'] && target.map Char.toLower == ['l', 'm', 'x']

/-- A finished instruction. Both texts are written backwards. -/
def Remark.ofInstruction (target body : List Char) : Remark :=
  if target = ['l', 'm', 'x'] then .declaration body.reverse else .instruction

/-- The next character of a remark. -/
def Remark.Start.step (w : Writing) (s : Remark.Start) (c : Char) : Move Remark.Start Remark :=
  match s with
  | .hyphen => if c = '-' then .more .commentText else .invalid
  | .commentText =>
    if c = '-' then .more .commentHyphen
    else if isLegal c then .more .commentText
    else .invalid
  | .commentHyphen =>
    if c = '-' then .more .commentHyphens
    else if isLegal c then .more .commentText
    else .invalid
  | .commentHyphens => if c = '>' then .done .comment else .invalid
  | .mark => if w.isNameStart c then .more (.name [c]) else .invalid
  | .name read =>
    if w.isName c then .more (.name (c :: read))
    else if isMisspelledTarget read then .invalid
    else if isSpace c then .more (.body read [c])
    else if c = '?' then .more (.nameEnd read)
    else .invalid
  | .nameEnd target => if c = '>' then .done (.ofInstruction target []) else .invalid
  | .body target read =>
    if c = '?' then .more (.bodyEnd target read)
    else if isLegal c then .more (.body target (c :: read))
    else .invalid
  | .bodyEnd target read =>
    if c = '>' then .done (.ofInstruction target read)
    else if c = '?' then .more (.bodyEnd target (c :: read))
    else if isLegal c then .more (.body target (c :: '?' :: read))
    else .invalid

end VectorLint.Markup
