import VectorLint.Markup.Doctype

/-!
# Tokens outside the root element

Before the root element and behind it the characters of a document form tokens. Several of them end
only where the next begins: a character that cannot belong to a word completes the word, and is then
read again as the beginning of something else.
-/

namespace VectorLint.Markup.Prolog

open Doctype (Token Mark)

/-- The kinds of words. -/
inductive Word where
  | name
  | qualified
  | token
  deriving DecidableEq, Repr

/-- What has been read of a token. Texts are kept with the last character first. -/
inductive State where
  /-- Between tokens. -/
  | idle
  /-- `<`. -/
  | angle
  /-- `<!`. -/
  | bang
  | keyword (read : List Char)
  /-- A percent sign behind a keyword. -/
  | keywordPercent (read : List Char)
  | remark (s : Remark.Start)
  | literal (q : Char) (read : List Char)
  /-- The quote behind a literal. -/
  | quoted (read : List Char)
  | word (kind : Word) (read : List Char)
  /-- The first colon behind a name. -/
  | colon (read : List Char)
  | bracket
  | brackets
  | parenthesis
  | percent
  | parameter
  | hash
  | pound (read : List Char)
  deriving DecidableEq, Repr

/-- What the next character does. -/
inductive Next where
  | more (s : State)
  /-- The character completes a token. -/
  | done (t : Token)
  /-- A token ended before. The character is read again behind what else was read since, which is
  `back` characters long. -/
  | before (t : Token) (s : State) (back : Nat)
  /-- The character begins the name of the root element. -/
  | root
  /-- The character `back` places before cannot stand where it stands. -/
  | invalid (back : Nat)
  deriving DecidableEq, Repr

/-- A text that was kept backwards. -/
def textOf (read : List Char) : String := String.ofList read.reverse

/-- The token of a finished word. -/
def Word.finish (kind : Word) (read : List Char) : Token :=
  match kind with
  | .name => .name (textOf read)
  | .qualified => .qualifiedName (textOf read)
  | .token => .nameToken (textOf read)

/-- The first character of a token. -/
def begin (w : Writing) (c : Char) : Next :=
  if c = '<' then .more .angle
  else if c = '"' || c = '\'' then .more (.literal c [])
  else if isSpace c then .done .space
  else if c = '%' then .more .percent
  else if c = ',' then .done .comma
  else if c = '[' then .done .openBracket
  else if c = ']' then .more .bracket
  else if c = '(' then .done .openParenthesis
  else if c = ')' then .more .parenthesis
  else if c = '|' then .done .bar
  else if c = '>' then .done .close
  else if c = '#' then .more .hash
  else if w.isNameStart c then .more (.word .name [c])
  else if w.isName c || c = ':' then .more (.word .token [c])
  else .invalid 0

/-- The next character of a word. -/
def continueWord (w : Writing) (kind : Word) (read : List Char) (c : Char) : Next :=
  if w.isName c then .more (.word kind (c :: read))
  else if isSpace c || ">),|[%".toList.contains c then .before (kind.finish read) .idle 0
  else if c = ':' then
    if kind = .name then .more (.colon read) else .more (.word .token (c :: read))
  else if (c = '+' || c = '*' || c = '?') && kind != .token then .done .markedName
  else .invalid 0

/-- The next character of a prolog. -/
def State.step (w : Writing) (s : State) (c : Char) : Next :=
  match s with
  | .idle => begin w c
  | .angle =>
    if c = '!' then .more .bang
    else if c = '?' then .more (.remark .mark)
    else if w.beginsElement c then .root
    else .invalid 0
  | .bang =>
    if c = '-' then .more (.remark .hyphen)
    else if c = '[' then .done .conditional
    else if w.isKeyword c then .more (.keyword [c])
    else .invalid 0
  | .keyword read =>
    if c = '%' then .more (.keywordPercent read)
    else if isSpace c then .before (.opening (textOf read)) .idle 0
    else if w.isKeyword c then .more (.keyword (c :: read))
    else .invalid 0
  | .keywordPercent read =>
    if isSpace c || c = '%' then .invalid 1 else .before (.opening (textOf read)) .percent 1
  | .remark r =>
    match r.step w c with
    | .more r => .more (.remark r)
    | .done r => .done (.remark r)
    | .invalid => .invalid 0
  | .literal q read =>
    if c = q then .more (.quoted read)
    else if isLegal c then .more (.literal q (c :: read))
    else .invalid 0
  | .quoted read =>
    if isSpace c || c = '>' || c = '%' || c = '[' then .before (.literal read.reverse) .idle 0
    else .invalid 0
  | .word kind read => continueWord w kind read c
  | .colon read =>
    if w.isName c then .more (.word .qualified (c :: ':' :: read))
    else continueWord w .token (':' :: read) c
  | .bracket => if c = ']' then .more .brackets else .before .closeBracket .idle 0
  | .brackets => if c = '>' then .done .conditional else .before .closeBracket .bracket 1
  | .parenthesis =>
    if c = '*' then .done (.closeParenthesis .star)
    else if c = '?' || c = '+' then .done (.closeParenthesis .other)
    else if isSpace c || c = '>' || c = ',' || c = '|' || c = ')' then
      .before (.closeParenthesis .none) .idle 0
    else .invalid 0
  | .percent =>
    if w.isNameStart c then .more .parameter
    else if isSpace c || c = '%' then .before .percent .idle 0
    else .invalid 0
  | .parameter =>
    if w.isName c then .more .parameter
    else if c = ';' then .done .parameterReference
    else .invalid 0
  | .hash => if w.isNameStart c then .more (.pound [c]) else .invalid 0
  | .pound read =>
    if w.isName c then .more (.pound (c :: read))
    else if isSpace c || c = ')' || c = '>' || c = '%' || c = '|' then
      .before (.pound (textOf read)) .idle 0
    else .invalid 0

/-- The token that the end of the text completes, if what has been read is a token. Half a character
that is left over spoils a word. -/
def State.atEnd? (isHalf : Bool) (s : State) : Option Token :=
  let whole (read : List Char) : List Char := if isHalf then '\x00' :: read else read
  match s with
  | .quoted read => some (.literal read.reverse)
  | .word kind read => some (kind.finish (whole read))
  | .bracket => some .closeBracket
  | .parenthesis => some (.closeParenthesis .none)
  | .pound read => some (.pound (textOf (whole read)))
  | _ => none

end VectorLint.Markup.Prolog
