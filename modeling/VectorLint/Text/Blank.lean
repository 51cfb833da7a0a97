/-!
# Blank characters

A configuration may not name a rule with nothing but blanks, and an emoji code ends at a blank.
Both use the same set: the characters of the Unicode property `White_Space`, together with the
four information separators `U+001C`–`U+001F`. The class of `Char.isWhitespace` is smaller, so
the set is written out here.
-/

namespace VectorLint.Text

/-- The blank characters: `White_Space` and the information separators. -/
def isBlank (c : Char) : Bool :=
  let n := c.toNat
  (0x09 ≤ n && n ≤ 0x0D) || (0x1C ≤ n && n ≤ 0x20) || n == 0x85 || n == 0xA0 || n == 0x1680
    || (0x2000 ≤ n && n ≤ 0x200A) || n == 0x2028 || n == 0x2029 || n == 0x202F || n == 0x205F
    || n == 0x3000

/-- A text that is empty or holds blanks only. -/
def isBlankText (s : String) : Bool := s.toList.all isBlank

end VectorLint.Text
