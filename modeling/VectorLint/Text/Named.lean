import VectorLint.Text.Named.Table
import VectorLint.Text.Pieces

/-!
# Names of characters

Each character has a name of its own, and some have other names besides. The case of the letters in
a name does not count, but for the names of two large groups, which are made by a rule: a syllable
of Hangul is named by its parts, and an ideograph by its number. The table holds the names in common
use.
-/

namespace VectorLint.Text

/-- The names of the table. -/
def names : List (List Char) :=
  nameLines.flatMap fun line ↦
    (pieces ',' line.toList).map fun name ↦ if name.head? = some ' ' then name.drop 1 else name

/-- What is behind the longest of some texts that stand at the head of a text. -/
def afterLongest? (texts : List String) (cs : List Char) : Option (List Char) :=
  let found := (texts.map String.toList).filter (·.isPrefixOf cs)
  (found.foldl (fun best text ↦
    if best.all (·.length < text.length) then some text else best) none).map (cs.drop ·.length)

/-- The names of the parts of a syllable: what it begins with, its vowel, and what it ends with. -/
def syllableParts : List (List String) := [
  ["G", "GG", "N", "D", "DD", "R", "M", "B", "BB", "S", "SS", "", "J", "JJ", "C", "K", "T", "P",
    "H"],
  ["A", "AE", "YA", "YAE", "EO", "E", "YEO", "YE", "O", "WA", "WAE", "OE", "YO", "U", "WEO", "WE",
    "WI", "YU", "EU", "YI", "I"],
  ["", "G", "GG", "GS", "N", "NJ", "NH", "D", "L", "LG", "LM", "LB", "LS", "LT", "LP", "LH", "M",
    "B", "BS", "S", "SS", "NG", "J", "C", "K", "T", "P", "H"]]

/-- Whether a text is the name of a syllable. -/
def isSyllable (cs : List Char) : Bool :=
  syllableParts.foldl (fun rest parts ↦ rest.bind (afterLongest? parts)) (some cs) = some []

/-- The ranges of ideographs that are named by their numbers. -/
def ideographs : List (Nat × Nat) :=
  [(0x3400, 0x4DBF), (0x4E00, 0x9FFF), (0x20000, 0x2A6DF), (0x2A700, 0x2B738), (0x2B740, 0x2B81D),
    (0x2B820, 0x2CEA1), (0x2CEB0, 0x2EBE0), (0x30000, 0x3134A)]

/-- The value of a capital hexadecimal digit. -/
def hexadecimal? (c : Char) : Option Nat :=
  if c.isDigit then some (c.toNat - '0'.toNat)
  else if 'A' ≤ c && c ≤ 'F' then some (c.toNat - 'A'.toNat + 10)
  else none

/-- Whether a text is the number of an ideograph, with four or five digits. -/
def isIdeograph (cs : List Char) : Bool :=
  (cs.length = 4 || cs.length = 5) &&
    match cs.mapM hexadecimal? with
    | some digits =>
      let n := digits.foldl (fun n d ↦ 16 * n + d) 0
      ideographs.any fun (first, last) ↦ first ≤ n && n ≤ last
    | none => false

/-- Whether a text is the short name of one of the 256 variation selectors. -/
def isSelector (cs : List Char) : Bool :=
  (List.range 256).any fun i ↦ cs = ("VS" ++ toString (i + 1)).toList

/-- What is behind a text at the head of another one. -/
def after? (front cs : List Char) : Option (List Char) :=
  if front.isPrefixOf cs then some (cs.drop front.length) else none

/-- Whether a text is the name of a character. -/
def isName (name : String) : Bool :=
  let cs := name.toList
  match after? "HANGUL SYLLABLE ".toList cs, after? "CJK UNIFIED IDEOGRAPH-".toList cs with
  | some rest, _ => isSyllable rest
  | none, some rest => isIdeograph rest
  | none, none =>
    let cs := cs.map Char.toUpper
    names.contains cs || isSelector cs

end VectorLint.Text
