import VectorLint.Text.Printable

/-!
# Quoted text

Messages that show a piece of input put it between quotes in a form that fits on one line and
shows every character. The quote is an apostrophe, unless the text holds an apostrophe and no
quotation mark. The chosen quote and the backslash are escaped with a backslash, tab and line
breaks have short escapes, and every other unprintable character is written by its code point in
two, four or eight hexadecimal digits.
-/

namespace VectorLint.Text

/-- The digits of `n` in base sixteen, lower case, with zeros in front up to `width` digits. -/
def hexDigits (width n : Nat) : List Char :=
  let ds := Nat.toDigits 16 n
  List.replicate (width - ds.length) '0' ++ ds

/-- The escape of an unprintable character: the shortest of the three numbered forms. -/
def numberedEscape (c : Char) : List Char :=
  let n := c.toNat
  if n < 0x100 then '\\' :: 'x' :: hexDigits 2 n
  else if n < 0x10000 then '\\' :: 'u' :: hexDigits 4 n
  else '\\' :: 'U' :: hexDigits 8 n

/-- One character as it stands between quotes of the kind `quote`. -/
def quotedChar (quote c : Char) : List Char :=
  if c = quote || c = '\\' then ['\\', c]
  else if c = '\t' then ['\\', 't']
  else if c = '\n' then ['\\', 'n']
  else if c = '\r' then ['\\', 'r']
  else if isPrintable c then [c]
  else numberedEscape c

/-- The quote chosen for a text. -/
def quoteFor (cs : List Char) : Char :=
  if cs.contains '\'' && !cs.contains '"' then '"' else '\''

/-- The quoted form of a text. -/
def quoted (s : String) : String :=
  let cs := s.toList
  let q := quoteFor cs
  String.ofList (q :: cs.flatMap (quotedChar q) ++ [q])

end VectorLint.Text
