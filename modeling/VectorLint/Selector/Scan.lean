import VectorLint.Report.Failure

/-!
# The parts of selector text

Selectors are written with names, quoted texts, white space and comments. Each function here reads
one such part from the head of a text and returns what it read together with the rest, or nothing
if no such part stands there. A backslash takes the special meaning from a character, or begins the
number of a character in up to six hexadecimal digits, behind which one white space is dropped.
-/

namespace VectorLint.Selector.Scan

/-- What was read, and the rest. -/
abbrev Part := List Char × List Char

/-- Parts read one after the other as long as there are any, at most `fuel` of them. -/
def many (part? : List Char → Option Part) : Nat → List Char → Part
  | 0, cs => ([], cs)
  | fuel + 1, cs =>
    match part? cs with
    | some (read, rest) =>
      let (more, rest) := many part? fuel rest
      (read ++ more, rest)
    | none => ([], cs)

/-- All parts that stand at the head of a text. -/
def repeated (part? : List Char → Option Part) (cs : List Char) : Part := many part? cs.length cs

/-- A line break. -/
def newline? : List Char → Option Part
  | '\r' :: '\n' :: rest => some (['\r', '\n'], rest)
  | c :: rest => if c = '\n' || c = '\x0c' || c = '\r' then some ([c], rest) else none
  | [] => none

/-- One white space. -/
def space? : List Char → Option Part
  | ' ' :: rest => some ([' '], rest)
  | '\t' :: rest => some (['\t'], rest)
  | cs => newline? cs

/-- The text of a comment up to its end. -/
def commentRest? : List Char → Option Part
  | '*' :: '/' :: rest => some (['*', '/'], rest)
  | c :: cs => (commentRest? cs).map fun (read, rest) ↦ (c :: read, rest)
  | [] => none

/-- A comment. -/
def comment? : List Char → Option Part
  | '/' :: '*' :: cs => (commentRest? cs).map fun (read, rest) ↦ ('/' :: '*' :: read, rest)
  | _ => none

/-- One white space or comment. -/
def blank? (cs : List Char) : Option Part := (space? cs).orElse fun _ ↦ comment? cs

/-- The text behind the white space and the comments at its head. -/
def skipBlanks (cs : List Char) : List Char := (repeated blank? cs).2

/-- A hexadecimal digit. -/
def isHexDigit (c : Char) : Bool :=
  c.isDigit || ('a' ≤ c && c ≤ 'f') || ('A' ≤ c && c ≤ 'F')

/-- A hexadecimal digit with a small letter. -/
def isSmallHexDigit (c : Char) : Bool := c.isDigit || ('a' ≤ c && c ≤ 'f')

/-- What stands behind a backslash that takes the meaning from a character, or writes one by its
number in some digits. A backslash may also end the text. -/
def escaped? (isDigit : Char → Bool) (cs : List Char) : Option Part :=
  let digits := (cs.take 6).takeWhile isDigit
  if !digits.isEmpty then
    let rest := cs.drop digits.length
    match space? rest with
    | some (s, rest) => some (digits ++ s, rest)
    | none => some (digits, rest)
  else
    match cs with
    | [] => some ([], [])
    | ['\n'] => some ([], ['\n'])
    | c :: rest => if c = '\r' || c = '\n' || c = '\x0c' then none else some ([c], rest)

/-- Whether a character may begin a name: a letter, an underscore or anything from `U+00A0` on. -/
def isNameStart (c : Char) : Bool := c.isAlpha || c == '_' || 0xA0 ≤ c.toNat

/-- Whether a character may stand in a name. -/
def isName (c : Char) : Bool := isNameStart c || c.isDigit || c == '-'

/-- One character of a name, or what is escaped there. -/
def unit? (isDigit belongs : Char → Bool) : List Char → Option Part
  | '\\' :: cs => (escaped? isDigit cs).map fun (read, rest) ↦ ('\\' :: read, rest)
  | c :: cs => if belongs c then some ([c], cs) else none
  | [] => none

/-- A name: it begins with a letter, perhaps behind a hyphen, or with two hyphens. Characters are
numbered in some digits. -/
def nameWith? (isDigit : Char → Bool) (cs : List Char) : Option Part :=
  let tail (front : List Char) (rest : List Char) : Option Part :=
    let (more, rest) := repeated (unit? isDigit isName) rest
    some (front ++ more, rest)
  match cs with
  | '-' :: rest =>
    match unit? isDigit isNameStart rest with
    | some (first, rest) => tail ('-' :: first) rest
    | none =>
      match rest with
      | '-' :: rest => tail ['-', '-'] rest
      | _ => none
  | cs =>
    match unit? isDigit isNameStart cs with
    | some (first, rest) => tail first rest
    | none => none

/-- A name. -/
def name? (cs : List Char) : Option Part := nameWith? isHexDigit cs

/-- The text between quotes up to the closing quote `q`. A backslash may take the meaning from any
character; line breaks may not stand without one. Each step spends one of `fuel`. -/
def quotedRest? (q : Char) : Nat → List Char → Option Part
  | 0, _ => none
  | fuel + 1, cs =>
    match cs with
    | [] => none
    | '\\' :: '\r' :: '\n' :: rest =>
      (quotedRest? q fuel rest).map fun (read, rest) ↦ ('\\' :: '\r' :: '\n' :: read, rest)
    | '\\' :: c :: rest =>
      (quotedRest? q fuel rest).map fun (read, rest) ↦ ('\\' :: c :: read, rest)
    | ['\\'] => none
    | c :: rest =>
      if c = q then some ([c], rest)
      else if c = '\r' || c = '\n' || c = '\x0c' then none
      else (quotedRest? q fuel rest).map fun (read, rest) ↦ (c :: read, rest)

/-- A value: a text between quotes, or a name with characters numbered in some digits. -/
def valueWith? (isDigit : Char → Bool) : List Char → Option Part
  | '"' :: cs => (quotedRest? '"' cs.length cs).map fun (read, rest) ↦ ('"' :: read, rest)
  | '\'' :: cs => (quotedRest? '\'' cs.length cs).map fun (read, rest) ↦ ('\'' :: read, rest)
  | cs => nameWith? isDigit cs

/-- A value. -/
def value? (cs : List Char) : Option Part := valueWith? isHexDigit cs

/-- A comma between two values. -/
def comma? (cs : List Char) : Option (List Char) :=
  match skipBlanks cs with
  | ',' :: rest => some (skipBlanks rest)
  | _ => none

/-- The values behind the first of a list, at most `fuel` of them, and what they are written with.
-/
def moreValues : Nat → List Char → Part
  | 0, cs => ([], cs)
  | fuel + 1, cs =>
    match (comma? cs).bind value? with
    | some (_, rest) =>
      let read := cs.take (cs.length - rest.length)
      let (more, rest) := moreValues fuel rest
      (read ++ more, rest)
    | none => ([], cs)

/-- A list of values between commas, as it is written. -/
def values? (cs : List Char) : Option Part := do
  let (first, rest) ← value? cs
  let (more, rest) := moreValues rest.length rest
  return (first ++ more, rest)

/-- The number that hexadecimal digits write. -/
def hexNumber (digits : List Char) : Nat :=
  digits.foldl (fun n c ↦
    n * 16 + (if c.isDigit then c.toNat - '0'.toNat
      else if 'a' ≤ c then c.toNat - 'a'.toNat + 10
      else c.toNat - 'A'.toNat + 10)) 0

/-- The character with a number that is written with a backslash. The number zero gives `U+FFFD`,
and one beyond the last code point is a failure. -/
def numbered (n : Nat) : Except Failure Char :=
  if n = 0 then .ok '\ufffd'
  else if n > 0x10FFFF then .error ⟨.value, "chr() arg not in range(0x110000)"⟩
  else if n.isValidChar then .ok (Char.ofNat n)
  else .ok '\ufffd'

/-- A text without its backslashes. In a quoted text a backslash also hides a line break. Each step
spends one of `fuel`. -/
def unescapeWith (isQuoted : Bool) : Nat → List Char → Except Failure (List Char)
  | 0, cs => .ok cs
  | fuel + 1, cs =>
    match cs with
    | [] => .ok []
    | '\\' :: rest => do
      let digits := (rest.take 6).takeWhile isHexDigit
      if !digits.isEmpty then
        let behind := rest.drop digits.length
        let behind := match space? behind with
          | some (_, behind) => behind
          | none => behind
        let c ← numbered (hexNumber digits)
        return c :: (← unescapeWith isQuoted fuel behind)
      else
        match rest with
        | [] => return ['\ufffd']
        | ['\n'] => return ['\ufffd', '\n']
        | c :: behind =>
          if c = '\r' || c = '\n' || c = '\x0c' then
            if isQuoted then
              match newline? rest with
              | some (_, behind) => unescapeWith isQuoted fuel behind
              | none => unescapeWith isQuoted fuel behind
            else return '\\' :: (← unescapeWith isQuoted fuel rest)
          else return c :: (← unescapeWith isQuoted fuel behind)
    | c :: rest => return c :: (← unescapeWith isQuoted fuel rest)

/-- A text without its backslashes. -/
def unescape (isQuoted : Bool) (cs : List Char) : Except Failure String := do
  return String.ofList (← unescapeWith isQuoted cs.length cs)

/-- The text that a value denotes. -/
def valueText (cs : List Char) : Except Failure String :=
  match cs with
  | q :: rest => if q = '"' || q = '\'' then unescape true rest.dropLast else unescape false cs
  | [] => .ok ""

/-- The texts of the values in a list. What is no value is passed over. In a list, a capital letter
is no digit of a number: a name ends behind a number with one that a white space follows, but the
letter counts when the character is looked up. -/
def valueTextsWith : Nat → List Char → Except Failure (List String)
  | 0, _ => .ok []
  | fuel + 1, cs =>
    match cs with
    | [] => .ok []
    | _ :: rest =>
      match valueWith? isSmallHexDigit cs with
      | some (read, rest) => do
        let text ← valueText read
        return text :: (← valueTextsWith fuel rest)
      | none =>
        match comma? cs with
        | some rest => valueTextsWith fuel rest
        | none => valueTextsWith fuel rest

/-- The texts of the values in a list. -/
def valueTexts (cs : List Char) : Except Failure (List String) := valueTextsWith cs.length cs

end VectorLint.Selector.Scan
