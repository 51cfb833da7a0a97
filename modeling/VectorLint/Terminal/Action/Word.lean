import VectorLint.Terminal.Action.Quoted
import VectorLint.Text.Pieces

/-!
# Words of literals

Literals are written with numbers, texts in quotes, a few names, signs and marks; white space and
remarks may stand between them. Lines may end inside brackets, behind a backslash, and before and
behind the words, where a line has to begin without white space if a word is its first thing.
Brackets nest at most so deep that another one is refused.
-/

namespace VectorLint.Terminal.Action

/-- The words that literals are written with. -/
inductive Word where
  | sign (c : Char)
  | mark (c : Char)
  | number (isReal : Bool)
  | text
  | octets
  | constant
  /-- The name of what makes the empty set, which has no other form. -/
  | setName
  deriving DecidableEq, Repr

/-! ## Numbers -/

/-- Whether a character may stand in a name. -/
def isNameChar (c : Char) : Bool := c.isAlphanum || c == '_' || 0x80 ≤ c.toNat

/-- What is behind digits, between which single underscores may stand. -/
def afterDigits? (isDigit : Char → Bool) : List Char → Option (List Char)
  | c :: '_' :: cs => if isDigit c then afterDigits? isDigit cs else none
  | c :: cs =>
    if isDigit c then some ((afterDigits? isDigit cs).getD cs) else none
  | [] => none

/-- The greatest number of digits of a whole number. -/
def mostDigits : Nat := 4300

/-- Whether digits are those of a whole number: none of them is a zero in front. -/
def isWhole (digits : List Char) : Bool :=
  let digits := digits.filter (· ≠ '_')
  (digits.head? ≠ some '0' || digits.all (· = '0')) && digits.length ≤ mostDigits

/-- What is behind an exponent, if one is there. -/
def afterExponent (cs : List Char) : List Char :=
  match cs with
  | e :: rest =>
    if e = 'e' || e = 'E' then
      let digits := match rest with
        | '+' :: rest | '-' :: rest => rest
        | _ => rest
      (afterDigits? Char.isDigit digits).getD cs
    else cs
  | [] => []

/-- A decimal number and what is behind it. -/
def decimal? (cs : List Char) : Option (Word × List Char) :=
  let afterWhole := afterDigits? Char.isDigit cs
  let behind := afterWhole.getD cs
  let afterPoint := match behind with
    | '.' :: rest =>
      match afterDigits? Char.isDigit rest with
      | some rest => some rest
      | none => afterWhole.map fun _ ↦ rest
    | _ => afterWhole
  match afterPoint with
  | none => none
  | some rest =>
    let rest := afterExponent rest
    match rest with
    | 'j' :: rest | 'J' :: rest => some (.number false, rest)
    | _ =>
      let written := cs.take (cs.length - rest.length)
      if afterWhole = some rest && !isWhole written then none else some (.number true, rest)

/-- A number and what is behind it. A letter that follows would belong to it. -/
def number? (cs : List Char) : Option (Word × List Char) :=
  let based (isDigit : Char → Bool) (rest : List Char) : Option (Word × List Char) :=
    let rest := match rest with
      | '_' :: rest => rest
      | _ => rest
    (afterDigits? isDigit rest).map (.number true, ·)
  let found := match cs with
    | '0' :: 'x' :: rest | '0' :: 'X' :: rest => based isHexadecimal rest
    | '0' :: 'o' :: rest | '0' :: 'O' :: rest => based (fun c ↦ '0' ≤ c && c ≤ '7') rest
    | '0' :: 'b' :: rest | '0' :: 'B' :: rest => based (fun c ↦ c = '0' || c = '1') rest
    | _ => decimal? cs
  found.filter fun (_, rest) ↦ !rest.head?.any isNameChar

/-! ## Names -/

/-- The names that stand for values. -/
def constants : List String := ["True", "False", "None"]

/-- The letters of the name of what makes the empty set, each with the other forms of it. -/
def setLetters : List (List Char) :=
  ["sſˢₛｓ𝐬𝑠𝒔𝓈𝓼𝔰𝕤𝖘𝗌𝘀𝘴𝙨𝚜", "eᵉₑℯⅇｅ𝐞𝑒𝒆𝓮𝔢𝕖𝖊𝖾𝗲𝘦𝙚𝚎", "tᵗₜｔ𝐭𝑡𝒕𝓉𝓽𝔱𝕥𝖙𝗍𝘁𝘵𝙩𝚝"].map String.toList

/-- Whether a name is that of what makes the empty set. A name may be written with other forms of
its letters, but a name that stands for a value may not. -/
def isSetName (name : List Char) : Bool :=
  name.length = setLetters.length && (name.zip setLetters).all fun (c, forms) ↦ forms.contains c

/-- The first word of a text that does not begin with white space, and what is behind it. -/
def word? (cs : List Char) : Option (Word × List Char) :=
  match cs with
  | '.' :: '.' :: '.' :: rest => some (.constant, rest)
  | c :: rest =>
    if c = '+' || c = '-' then some (.sign c, rest)
    else if "()\x7b\x7d,:".toList.contains c then some (.mark c, rest)
    else if c.isDigit || c = '.' then number? cs
    else
      match quoted? cs with
      | some (isOctets, rest) => some (if isOctets then .octets else .text, rest)
      | none =>
        let name := cs.takeWhile isNameChar
        let rest := cs.dropWhile isNameChar
        if constants.contains (String.ofList name) then some (.constant, rest)
        else if isSetName name then some (.setName, rest)
        else none
  | [] => none

/-! ## Lines -/

/-- Whether a character is white space inside a line. -/
def isLineSpace (c : Char) : Bool := c = ' ' || c = '\t' || c = '\x0c'

/-- The most brackets that may be open. -/
def maxDepth : Nat := 200

/-- Where the words of a text are looked for. -/
inductive Spot where
  /-- At the beginning of a line outside brackets. It is indented if white space stands before, but
  a form feed takes that back; white space before a backslash stays. -/
  | lineStart (isIndented staysIndented : Bool)
  /-- Behind something else of a line, with some brackets open. -/
  | inside (depth : Nat)
  deriving DecidableEq, Repr

/-- Where a line begins behind a line feed. -/
def Spot.newLine : Spot → Spot
  | .inside (depth + 1) => .inside (depth + 1)
  | _ => .lineStart false false

/-- The spot behind a character of white space. -/
def Spot.space (c : Char) : Spot → Spot
  | .lineStart _ stays => .lineStart (c ≠ '\x0c') stays
  | .inside depth => .inside depth

/-- The spot behind a backslash and a line feed. -/
def Spot.joined : Spot → Spot
  | .lineStart isIndented stays => .lineStart isIndented (stays || isIndented)
  | .inside depth => .inside depth

/-- How many brackets are open before a word, if one may stand here. Behind the end of a line with
words none may. -/
def Spot.depth? (hasWords : Bool) : Spot → Option Nat
  | .lineStart isIndented stays => if isIndented || stays || hasWords then none else some 0
  | .inside depth => some depth

/-- How many brackets are open behind a word. -/
def depthBehind? (depth : Nat) : Word → Option Nat
  | .mark '(' | .mark '\x7b' => if depth < maxDepth then some (depth + 1) else none
  | .mark ')' | .mark '\x7d' => some (depth - 1)
  | _ => some depth

/-- The words of a text. Each word, and each character between words, uses up one of `fuel`. -/
def wordsFrom (fuel : Nat) (hasWords : Bool) (spot : Spot) (cs : List Char) : Option (List Word) :=
  match fuel, cs with
  | _, [] => some []
  | 0, _ => none
  | fuel + 1, c :: cs =>
    if isLineSpace c then wordsFrom fuel hasWords (spot.space c) cs
    else if c = '\n' then wordsFrom fuel hasWords spot.newLine cs
    else if c = '#' then wordsFrom fuel hasWords spot (cs.dropWhile (· ≠ '\n'))
    else if c = '\\' then
      match cs with
      | '\n' :: d :: rest => wordsFrom fuel hasWords spot.joined (d :: rest)
      | _ => none
    else do
      let depth ← spot.depth? hasWords
      let (word, rest) ← word? (c :: cs)
      let depth ← depthBehind? depth word
      let words ← wordsFrom fuel true (.inside depth) rest
      return word :: words

/-- The words of a text. No character of it may be `U+0000`. -/
def words? (cs : List Char) : Option (List Word) :=
  if cs.contains '\x00' then none
  else
    let cs := Text.plainLineEnds cs
    wordsFrom (cs.length + 1) false (.lineStart false false) cs

end VectorLint.Terminal.Action
