import VectorLint.Markup.Charset.Plane.Simplified
import VectorLint.Markup.Charset.Reading

/-!
# Encodings that shift

Two encodings write all their characters with octets of ASCII: some octets shift to another meaning
of those behind them, and others shift back. An octet beyond ASCII is a fault in both.
-/

namespace VectorLint.Markup.Charset

/-! ## Pairs between tildes -/

/-- The reading of octets in which a tilde shifts. Between `~{` and `~}` two octets are a character
of GB 2312; outside of them two tildes are one, and a tilde before a line feed is left out. -/
def readTildes : Bool → List UInt8 → Reading
  | _, [] => .empty
  | false, 0x7E :: 0x7E :: bs => (readTildes false bs).behind ['~'] 2
  | false, 0x7E :: 0x7B :: bs => (readTildes true bs).behind [] 2
  | false, 0x7E :: 0x0A :: bs => (readTildes false bs).behind [] 2
  | true, 0x7E :: 0x7D :: bs => (readTildes false bs).behind [] 2
  | _, 0x7E :: _ => .fault 1
  | false, b :: bs =>
    if b < 128 then (readTildes false bs).behind [Char.ofNat b.toNat] 1 else .fault 0
  | true, a :: b :: bs =>
    match if a < 128 && b < 128 then gb2312.char? (a.toNat + 128) (b.toNat + 128) else none with
    | some c => (readTildes true bs).behind [c] 2
    | none => .fault 1
  | true, [_] => .fault 1

/-! ## Numbers between a plus and a minus -/

/-- What the octets stand for: characters of their own, or six bits each, of which some are left
from the octets before; half of a pair of units may be left as well. -/
inductive Shift where
  | direct
  | coded (bits : Nat) (count : Nat) (half : Option Nat)
  deriving DecidableEq, Repr

/-- The six bits of an octet. -/
def sextet? (b : UInt8) : Option Nat :=
  if 0x41 ≤ b && b ≤ 0x5A then some (b.toNat - 0x41)
  else if 0x61 ≤ b && b ≤ 0x7A then some (b.toNat - 0x61 + 26)
  else if 0x30 ≤ b && b ≤ 0x39 then some (b.toNat - 0x30 + 52)
  else if b = 0x2B then some 62
  else if b = 0x2F then some 63
  else none

/-- The character that an octet is where it stands for itself: the printable ones and the blanks of
ASCII, without the backslash, the tilde and the plus sign. -/
def direct? (b : UInt8) : Option Char :=
  if (0x20 ≤ b && b < 0x7E && b != 0x5C && b != 0x2B) || b = 0x09 || b = 0x0A || b = 0x0D then
    some (Char.ofNat b.toNat)
  else none

/-- What a unit of sixteen bits gives behind what may be half of a pair: characters and a half that
is left, if the unit may stand there. -/
def ofUnit? (half : Option Nat) (n : Nat) : Option (List Char × Option Nat) :=
  let isLow := 0xDC00 ≤ n && n < 0xE000
  match half with
  | some high =>
    if isLow then some ([Char.ofNat (0x10000 + (high - 0xD800) * 0x400 + (n - 0xDC00))], none)
    else none
  | none =>
    if isLow then none
    else if 0xD800 ≤ n && n < 0xDC00 then some ([], some n)
    else some ([Char.ofNat n], none)

/-- The reading of octets in which a plus sign begins units of sixteen bits, written six bits to the
octet. The first octet that stands for no bits ends them, and a minus sign is left out there; what
is left of the bits has to be nothing. -/
def readUnits : Shift → List UInt8 → Reading
  | _, [] => .empty
  | .direct, 0x2B :: 0x2D :: bs => (readUnits .direct bs).behind ['+'] 2
  | .direct, 0x2B :: bs => (readUnits (.coded 0 0 none) bs).behind [] 1
  | .direct, b :: bs =>
    match direct? b with
    | some c => (readUnits .direct bs).behind [c] 1
    | none => .fault 0
  | .coded bits count half, b :: bs =>
    match sextet? b with
    | some v =>
      let bits := bits * 64 + v
      let count := count + 6
      if count < 16 then (readUnits (.coded bits count half) bs).behind [] 1
      else
        let left := count - 16
        match ofUnit? half (bits / 2 ^ left) with
        | some (cs, half) => (readUnits (.coded (bits % 2 ^ left) left half) bs).behind cs 1
        | none => .fault 0
    | none =>
      if half.isSome || 6 ≤ count || bits != 0 then .fault 0
      else if b = 0x2D then (readUnits .direct bs).behind [] 1
      else
        match direct? b with
        | some c => (readUnits .direct bs).behind [c] 1
        | none => .fault 0

end VectorLint.Markup.Charset
