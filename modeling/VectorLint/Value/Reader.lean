import VectorLint.Value.Basic

/-!
# Reading JSON text

A JSON text is read into a value from left to right, and the first fault ends the reading. Beyond
the standard, `NaN`, `Infinity` and `-Infinity` are numbers, a number with a point or an exponent
is a fraction and any other a whole number, and of two fields with one name the later value counts
in the earlier place. Control characters may not stand in a string.

A fault carries the number of characters that were still unread where it lies, from which
`Fault.message` computes line and column. Two faults are not about the grammar: a whole number with
too many digits, and brackets nested too deeply.
-/

namespace VectorLint.Json

/-- What is wrong with a JSON text. -/
inductive Problem where
  | value
  | fieldName
  | colon
  | comma
  | openString
  | controlCharacter
  | escape
  | numberedEscape
  | extraData
  | byteOrderMark
  deriving DecidableEq, Repr

/-- The wording of a problem. -/
def Problem.wording : Problem → String
  | .value => "Expecting value"
  | .fieldName => "Expecting property name enclosed in double quotes"
  | .colon => "Expecting ':' delimiter"
  | .comma => "Expecting ',' delimiter"
  | .openString => "Unterminated string starting at"
  | .controlCharacter => "Invalid control character at"
  | .escape => "Invalid \\escape"
  | .numberedEscape => "Invalid \\uXXXX escape"
  | .extraData => "Extra data"
  | .byteOrderMark => "Unexpected UTF-8 BOM (decode using utf-8-sig)"

/-- Why a JSON text has no value. -/
inductive Fault where
  /-- The grammar is broken where `unread` characters were left. -/
  | grammar (problem : Problem) (unread : Nat)
  /-- A whole number has more digits than are read. -/
  | digits (count : Nat)
  /-- The brackets nest too deeply at a list or an object. -/
  | depth (isObject : Bool)
  deriving DecidableEq, Repr

/-- The most digits a whole number may have. -/
def maxDigits : Nat := 4300

/-- Line, column and offset of a place in a text, as fault messages give them: lines and columns
count from one. -/
def place (cs : List Char) (offset : Nat) : String :=
  let before := cs.take offset
  let line := before.count '\n' + 1
  let column := (before.reverse.takeWhile (· != '\n')).length + 1
  s!"line {line} column {column} (char {offset})"

/-- The message of a fault in the text `cs`. -/
def Fault.message (cs : List Char) : Fault → String
  | .grammar problem unread => problem.wording ++ ": " ++ place cs (cs.length - unread)
  | .digits count =>
    s!"Exceeds the limit ({maxDigits} digits) for integer string conversion: " ++
      s!"value has {count} digits"
      ++ "; use sys.set_int_max_str_digits() to increase the limit"
  | .depth isObject =>
    "maximum recursion depth exceeded while decoding a JSON "
      ++ (if isObject then "object" else "array") ++ " from a unicode string"

/-- A grammar fault at the head of `rest`. -/
def broken {α : Type} (problem : Problem) (rest : List Char) : Except Fault α :=
  .error (.grammar problem rest.length)

/-- Blanks between the parts of a JSON text. -/
def isSpace (c : Char) : Bool := c == ' ' || c == '\t' || c == '\n' || c == '\r'

/-- The text from the first character that is not a blank. -/
def skipSpace (cs : List Char) : List Char := cs.dropWhile isSpace

/-- The value of a hexadecimal digit. -/
def hexValue? (c : Char) : Option Nat :=
  if c.isDigit then some (c.toNat - '0'.toNat)
  else if 'a' ≤ c && c ≤ 'f' then some (c.toNat - 'a'.toNat + 10)
  else if 'A' ≤ c && c ≤ 'F' then some (c.toNat - 'A'.toNat + 10)
  else none

/-- The number written by four hexadecimal digits. -/
def hexNumber? (a b c d : Char) : Option Nat := do
  return ((((← hexValue? a) * 16 + (← hexValue? b)) * 16) + (← hexValue? c)) * 16 + (← hexValue? d)

/-- The character of a short escape. -/
def shortEscape? : Char → Option Char
  | '"' => some '"'
  | '\\' => some '\\'
  | '/' => some '/'
  | 'b' => some '\x08'
  | 'f' => some '\x0c'
  | 'n' => some '\n'
  | 'r' => some '\r'
  | 't' => some '\t'
  | _ => none

/-- Whether a UTF-16 unit is the first or the second of a pair. -/
def isHighUnit (n : Nat) : Bool := 0xD800 ≤ n && n < 0xDC00

@[inherit_doc isHighUnit]
def isLowUnit (n : Nat) : Bool := 0xDC00 ≤ n && n < 0xE000

/-- The character of a numbered escape whose `u` stands at the head of `cs`, and how many characters
the escape takes from there. Two escapes that form a pair of UTF-16 units are one character. A unit
of a pair without the other is no character, and the replacement character is put in its place: what
is said of such texts is said of others. At least one character has to follow the digits, and at
least one those of a pair. -/
def numberedEscape (cs : List Char) : Except Fault (Char × Nat) :=
  match cs with
  | _ :: a :: b :: c :: d :: next :: rest =>
    match hexNumber? a b c d with
    | none => broken .numberedEscape cs
    | some high =>
      match isHighUnit high, next, rest with
      | true, '\\', 'u' :: e :: f :: g :: h :: more =>
        match more, hexNumber? e f g h with
        | [], _ => .ok ('\ufffd', 5)
        | _, none => broken .numberedEscape rest
        | _, some low =>
          if isLowUnit low then
            .ok (Char.ofNat (0x10000 + (high - 0xD800) * 0x400 + (low - 0xDC00)), 11)
          else .ok ('\ufffd', 5)
      | _, _, _ => .ok (if isHighUnit high || isLowUnit high then '\ufffd' else Char.ofNat high, 5)
  | _ => broken .numberedEscape cs

/-- The rest of a string behind its opening quote. `unread` counts the characters from the opening
quote on, and `skip` those at the head that belong to an escape read before. -/
def stringRest (unread skip : Nat) : List Char → Except Fault (List Char × List Char)
  | [] => .error (.grammar .openString unread)
  | c :: rest =>
    match skip with
    | skip + 1 => stringRest unread skip rest
    | 0 =>
      if c = '"' then .ok ([], rest)
      else if c = '\\' then
        match rest with
        | [] => .error (.grammar .openString unread)
        | 'u' :: _ => do
          let (escaped, taken) ← numberedEscape rest
          let (cs, left) ← stringRest unread taken rest
          return (escaped :: cs, left)
        | mark :: _ =>
          match shortEscape? mark with
          | none => broken .escape (c :: rest)
          | some escaped => do
            let (cs, left) ← stringRest unread 1 rest
            return (escaped :: cs, left)
      else if c.toNat < 0x20 then broken .controlCharacter (c :: rest)
      else do
        let (cs, left) ← stringRest unread 0 rest
        return (c :: cs, left)

/-- The whole number written by decimal digits. -/
def decimalValue (digits : List Char) : Nat :=
  digits.foldl (fun n c ↦ n * 10 + (c.toNat - '0'.toNat)) 0

/-- The fraction digits behind a point, if a digit follows the point. -/
def fractionDigits (cs : List Char) : Option (List Char × List Char) :=
  match cs with
  | '.' :: rest =>
    let digits := rest.takeWhile Char.isDigit
    if digits.isEmpty then none else some (digits, rest.dropWhile Char.isDigit)
  | _ => none

/-- The exponent, if a mark, perhaps a sign, and at least one digit follow. -/
def exponentDigits (cs : List Char) : Option (Int × List Char) :=
  match cs with
  | e :: rest =>
    if e == 'e' || e == 'E' then
      let (negative, rest) := match rest with
        | '-' :: rest => (true, rest)
        | '+' :: rest => (false, rest)
        | rest => (false, rest)
      let digits := rest.takeWhile Char.isDigit
      if digits.isEmpty then none
      else
        let n : Int := decimalValue digits
        some (if negative then -n else n, rest.dropWhile Char.isDigit)
    else none
  | [] => none

/-- The digits before the point: one zero, or digits that start with another digit. -/
def wholeDigits (cs : List Char) : Option (List Char × List Char) :=
  match cs with
  | '0' :: rest => some (['0'], rest)
  | cs =>
    let digits := cs.takeWhile Char.isDigit
    if digits.isEmpty then none else some (digits, cs.dropWhile Char.isDigit)

/-- A number. A point or an exponent makes it a fraction. -/
def number (cs : List Char) : Except Fault (Value × List Char) :=
  let (negative, unsigned) := match cs with
    | '-' :: rest => (true, rest)
    | cs => (false, cs)
  match wholeDigits unsigned with
  | none => broken .value cs
  | some (whole, rest) =>
    let fraction := fractionDigits rest
    let (digits, rest) := match fraction with
      | some (digits, rest) => (digits, rest)
      | none => ([], rest)
    match fraction, exponentDigits rest with
    | none, none =>
      if whole.length > maxDigits then .error (.digits whole.length)
      else
        let n : Int := decimalValue whole
        .ok (.int (if negative then -n else n), rest)
    | _, some (e, rest) =>
      .ok (.float (.ofDecimal negative (decimalValue (whole ++ digits)) (e - digits.length)), rest)
    | _, none =>
      .ok (.float (.ofDecimal negative (decimalValue (whole ++ digits)) (-digits.length)), rest)

/-- A value that is a word, with the characters after it. -/
def word? : List Char → Option (Value × List Char)
  | 'n' :: 'u' :: 'l' :: 'l' :: rest => some (.null, rest)
  | 't' :: 'r' :: 'u' :: 'e' :: rest => some (.bool true, rest)
  | 'f' :: 'a' :: 'l' :: 's' :: 'e' :: rest => some (.bool false, rest)
  | 'N' :: 'a' :: 'N' :: rest => some (.float .nan, rest)
  | 'I' :: 'n' :: 'f' :: 'i' :: 'n' :: 'i' :: 't' :: 'y' :: rest =>
    some (.float (.infinite false), rest)
  | '-' :: 'I' :: 'n' :: 'f' :: 'i' :: 'n' :: 'i' :: 't' :: 'y' :: rest =>
    some (.float (.infinite true), rest)
  | _ => none

mutual

/-- A value at the head of the text. Each call spends one of `fuel`, and `depth` counts the brackets
that may still be opened. -/
def value (fuel depth : Nat) (cs : List Char) : Except Fault (Value × List Char) :=
  match fuel with
  | 0 => broken .value cs
  | fuel + 1 =>
    match cs with
    | '"' :: rest => (stringRest cs.length 0 rest).map fun (s, r) ↦ (.text (String.ofList s), r)
    | '[' :: rest =>
      match depth with
      | 0 => .error (.depth false)
      | depth + 1 =>
        match skipSpace rest with
        | ']' :: rest => .ok (.list [], rest)
        | rest => (items fuel depth rest).map fun (vs, r) ↦ (.list vs, r)
    | '\x7b' :: rest =>
      match depth with
      | 0 => .error (.depth true)
      | depth + 1 =>
        match skipSpace rest with
        | '\x7d' :: rest => .ok (.object [], rest)
        | rest => (fields fuel depth [] rest).map fun (fs, r) ↦ (.object fs, r)
    | cs =>
      match word? cs with
      | some (v, rest) => .ok (v, rest)
      | none => number cs

/-- The items of a list up to its closing bracket. -/
def items (fuel depth : Nat) (cs : List Char) : Except Fault (List Value × List Char) :=
  match fuel with
  | 0 => broken .value cs
  | fuel + 1 => do
    let (v, rest) ← value fuel depth cs
    match skipSpace rest with
    | ']' :: rest => .ok ([v], rest)
    | ',' :: rest => (items fuel depth (skipSpace rest)).map fun (vs, r) ↦ (v :: vs, r)
    | rest => broken .comma rest

/-- The fields of an object up to its closing bracket, put behind those `read` before. -/
def fields (fuel depth : Nat) (read : List (String × Value)) (cs : List Char) :
    Except Fault (List (String × Value) × List Char) :=
  match fuel with
  | 0 => broken .fieldName cs
  | fuel + 1 =>
    match cs with
    | '"' :: rest => do
      let (name, rest) ← stringRest cs.length 0 rest
      match skipSpace rest with
      | ':' :: rest => do
        let (v, rest) ← value fuel depth (skipSpace rest)
        let read := Fields.put (String.ofList name) v read
        match skipSpace rest with
        | '\x7d' :: rest => .ok (read, rest)
        | ',' :: rest => fields fuel depth read (skipSpace rest)
        | rest => broken .comma rest
      | rest => broken .colon rest
    | cs => broken .fieldName cs

end

/-- The value of a JSON text in which brackets nest at most `maxDepth` deep. Each call of the reader
spends a character or a bracket level, so twice the length of the text is enough fuel. -/
def read (maxDepth : Nat) (cs : List Char) : Except Fault Value :=
  match cs with
  | '\ufeff' :: _ => broken .byteOrderMark cs
  | cs => do
    let (v, rest) ← value (2 * cs.length + 2) maxDepth (skipSpace cs)
    match skipSpace rest with
    | [] => .ok v
    | rest => broken .extraData rest

end VectorLint.Json
