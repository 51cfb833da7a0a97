import VectorLint.Text.Lowercase

/-!
# Letters that differ only in case

Two characters differ only in case if they have the same small letter, or small letters that have
the same capital letter: an s and a long s, say, or the two small sigmas. Every character is mapped
to one that stands for all those, so that a comparison of the images is a comparison without regard
to case. Texts are compared character by character, so the dotted capital i goes with the other i's.
-/

namespace VectorLint.Text

/-- Small letters that have the same capital letter, where they do not have the same small letter.
-/
def sameCapital : List (List Nat) := [
  [0x69, 0x131], [0x73, 0x17F], [0xB5, 0x3BC], [0x345, 0x3B9, 0x1FBE], [0x390, 0x1FD3],
  [0x3B0, 0x1FE3], [0x3B2, 0x3D0], [0x3B5, 0x3F5], [0x3B8, 0x3D1], [0x3BA, 0x3F0],
  [0x3C0, 0x3D6], [0x3C1, 0x3F1], [0x3C2, 0x3C3], [0x3C6, 0x3D5], [0x432, 0x1C80],
  [0x434, 0x1C81], [0x43E, 0x1C82], [0x441, 0x1C83], [0x442, 0x1C84, 0x1C85], [0x44A, 0x1C86],
  [0x463, 0x1C87], [0x1C88, 0xA64B], [0x1E61, 0x1E9B], [0xFB05, 0xFB06]]

/-- The character that stands for all those that differ from it only in case. -/
def folded (c : Char) : Char :=
  let small := if c = '\u0130' then 'i' else lowercaseChar c
  match sameCapital.find? (·.contains small.toNat) with
  | some (first :: _) => Char.ofNat first
  | _ => small

/-- Whether two characters differ at most in case. -/
def sameLetter (c d : Char) : Bool := folded c == folded d

end VectorLint.Text
