import VectorLint.Text.Named

/-!
# Texts and octets in quotes

A text stands between single quotes or between triples of them, of either kind, and letters before
the quotes may make it raw or make it octets. A backslash takes the next character with it, so a
quote behind one does not end the text. In a text that is not raw, a backslash and a letter may
begin an escape, and then the escape has to be complete: digits of a number that is a code point, or
the name of a character in braces.
-/

namespace VectorLint.Terminal.Action

/-- Whether a character is a hexadecimal digit. -/
def isHexadecimal (c : Char) : Bool :=
  c.isDigit || ('a' ≤ c && c ≤ 'f') || ('A' ≤ c && c ≤ 'F')

/-- Whether so many hexadecimal digits stand at the head of a text. -/
def beginsHexadecimal (count : Nat) (cs : List Char) : Bool :=
  let digits := cs.take count
  digits.length = count && digits.all isHexadecimal

/-- Whether eight hexadecimal digits are those of a code point: none is beyond `U+10FFFF`. -/
def isCodePoint (digits : List Char) : Bool :=
  digits.take 3 = ['0', '0', '0'] || digits.take 4 = ['0', '0', '1', '0']

/-- Whether a name in braces stands at the head of a text. -/
def beginsNamed (cs : List Char) : Bool :=
  match cs with
  | '\x7b' :: cs =>
    let name := cs.takeWhile (· ≠ '\x7d')
    name.length < cs.length && Text.isName (String.ofList name)
  | _ => false

/-- Whether an escape is complete that begins with a letter before the text `behind`. In octets only
one letter begins an escape that may be incomplete. -/
def escapeHolds (isOctets : Bool) (c : Char) (behind : List Char) : Bool :=
  if c = 'x' then beginsHexadecimal 2 behind
  else if isOctets then true
  else if c = 'u' then beginsHexadecimal 4 behind
  else if c = 'U' then beginsHexadecimal 8 behind && isCodePoint behind
  else if c = 'N' then beginsNamed behind
  else true

/-- Whether the escapes of a text are complete. -/
def escapesHold (isOctets : Bool) : List Char → Bool
  | [] => true
  | '\\' :: c :: cs => escapeHolds isOctets c cs && escapesHold isOctets cs
  | _ :: cs => escapesHold isOctets cs

/-- The text up to the quotes that end it, with the last character first, and what is behind them.
Only a text between triples of quotes goes over several lines. -/
def quotedRest? (quotes : List Char) (read : List Char) : List Char → Option (List Char × List Char)
  | [] => none
  | c :: cs =>
    if quotes.isPrefixOf (c :: cs) then some (read, (c :: cs).drop quotes.length)
    else if c = '\n' && quotes.length = 1 then none
    else if c = '\\' then
      match cs with
      | [] => none
      | d :: cs => quotedRest? quotes (d :: c :: read) cs
    else quotedRest? quotes (c :: read) cs

/-- The letters that may stand before a quote, each with whether it makes the text raw and whether
it makes it octets. -/
def quoteMarks : List (String × Bool × Bool) :=
  [("", false, false), ("r", true, false), ("u", false, false), ("b", false, true),
    ("br", true, true), ("rb", true, true)]

/-- A text in quotes at the head of a text: whether it is octets, and what is behind it. Octets are
written in ASCII. -/
def quoted? (cs : List Char) : Option (Bool × List Char) := do
  let letters := cs.takeWhile fun c ↦ c ≠ '"' && c ≠ '\''
  let (isRaw, isOctets) ← quoteMarks.lookup (String.ofList (letters.map Char.toLower))
  let body := cs.drop letters.length
  let q ← body.head?
  let quotes := if (body.take 3) = [q, q, q] then [q, q, q] else [q]
  let (read, rest) ← quotedRest? quotes [] (body.drop quotes.length)
  if isOctets && read.any (0x80 ≤ ·.toNat) then none
  else if isRaw || escapesHold isOctets read.reverse then some (isOctets, rest)
  else none

end VectorLint.Terminal.Action
