import VectorLint.Number.Shortest

/-!
# Number text

A number of double precision is written with its shortest digits. Between `10 ^ -4` and `10 ^ 16`
the point stands in its place and a whole number ends in `.0`; outside, the number is written with
one digit before the point and an exponent that has a sign and at least two digits. The texts of
the three numbers without digits differ between the two output formats that use this module.
-/

namespace VectorLint.Binary64

/-- The texts of the numbers that have no digits. -/
structure SpecialTexts where
  nan : String
  infinite : String

/-- The special numbers as messages show them. -/
def SpecialTexts.plain : SpecialTexts := { nan := "nan", infinite := "inf" }

/-- The special numbers in JSON text. -/
def SpecialTexts.json : SpecialTexts := { nan := "NaN", infinite := "Infinity" }

/-- The decimal with its point in place. -/
def Decimal.positional (d : Decimal) : List Char :=
  let n := d.digits.length
  if d.point ≤ 0 then ['0', '.'] ++ List.replicate (-d.point).toNat '0' ++ d.digits
  else
    let p := d.point.toNat
    if n ≤ p then d.digits ++ List.replicate (p - n) '0' ++ ['.', '0']
    else d.digits.take p ++ '.' :: d.digits.drop p

/-- The decimal with one digit before the point and an exponent. -/
def Decimal.scientific (d : Decimal) : List Char :=
  let e := d.point - 1
  let ds := Nat.toDigits 10 e.natAbs
  let lead := d.digits.take 1
  let rest := d.digits.drop 1
  lead ++ (if rest.isEmpty then [] else '.' :: rest) ++ ['e', if e < 0 then '-' else '+']
    ++ List.replicate (2 - ds.length) '0' ++ ds

/-- The text of a decimal: positional from `10 ^ -4` up to, but not including, `10 ^ 16`. -/
def Decimal.written (d : Decimal) : List Char :=
  if -4 < d.point && d.point ≤ 16 then d.positional else d.scientific

/-- The text of a number. Zero keeps its sign. -/
def written (special : SpecialTexts) : Binary64 → String
  | .nan => special.nan
  | .infinite negative => if negative then "-" ++ special.infinite else special.infinite
  | .finite negative m e =>
    let text := String.ofList (shortest m e).written
    if negative then "-" ++ text else text

end VectorLint.Binary64
