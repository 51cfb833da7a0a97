/-!
# Double precision numbers

A number of double precision is kept as what it denotes: a sign, a significand and a power of
two. All arithmetic on it is exact arithmetic on natural numbers; the only rounding is the one
from a quotient to the nearest number of double precision, a tie going to the even significand.
-/

namespace VectorLint

/-- A number of double precision. `finite s m e` stands for `m * 2 ^ e`, negated if `s` holds. The
rounding below makes `m` smaller than `2 ^ 53` and `e` at least `-1074`, and `m` at least `2 ^ 52`
unless `e` is `-1074`. -/
inductive Binary64 where
  | nan
  | infinite (negative : Bool)
  | finite (negative : Bool) (significand : Nat) (exponent : Int)
  deriving DecidableEq, Repr, Inhabited

namespace Binary64

/-- The smallest power of two a significand is counted in. -/
def minExponent : Int := -1074

/-- The largest power of two a significand is counted in. -/
def maxExponent : Int := 971

/-- The quotient of two numbers to the nearest whole number, a tie going to the even one. -/
def roundDiv (num den : Nat) : Nat :=
  let q := num / den
  let r := num % den
  if 2 * r > den || (2 * r == den && q % 2 == 1) then q + 1 else q

/-- The quotient `num / (den * 2 ^ e)`, rounded. -/
def significandAt (num den : Nat) (e : Int) : Nat :=
  if 0 ≤ e then roundDiv num (den * Nat.pow 2 e.toNat)
  else roundDiv (num * Nat.pow 2 (-e).toNat) den

/-- The power of two in whose multiples the quotient `num / den` is rounded: the one that leaves
53 binary digits, but never less than the smallest. -/
def exponentFor (num den : Nat) : Int :=
  let guess : Int := (Nat.log2 num : Int) - Nat.log2 den - 53
  let e := if significandFloor guess < Nat.pow 2 53 then guess else guess + 1
  max e minExponent
where
  /-- The whole part of the quotient counted in multiples of `2 ^ e`. -/
  significandFloor (e : Int) : Nat :=
    if 0 ≤ e then num / (den * Nat.pow 2 e.toNat) else num * Nat.pow 2 (-e).toNat / den

/-- The number nearest to `num / den`. A quotient that rounds beyond the largest finite number is
infinite. -/
def ofRatio (negative : Bool) (num den : Nat) : Binary64 :=
  if num = 0 || den = 0 then .finite negative 0 minExponent
  else
    let e := exponentFor num den
    let m := significandAt num den e
    let (m, e) := if m = Nat.pow 2 53 then (Nat.pow 2 52, e + 1) else (m, e)
    if e > maxExponent then .infinite negative else .finite negative m e

/-- The number nearest to `digits * 10 ^ exponent`. Powers of ten far outside the range are not
computed. -/
def ofDecimal (negative : Bool) (digits : Nat) (exponent : Int) : Binary64 :=
  let magnitude : Int := (Nat.toDigits 10 digits).length + exponent
  if digits = 0 then .finite negative 0 minExponent
  else if magnitude > 400 then .infinite negative
  else if magnitude < -400 then .finite negative 0 minExponent
  else if 0 ≤ exponent then ofRatio negative (digits * Nat.pow 10 exponent.toNat) 1
  else ofRatio negative digits (Nat.pow 10 (-exponent).toNat)

/-- Whether the number is at most the whole number `n`. -/
def leInt : Binary64 → Int → Bool
  | .nan, _ => false
  | .infinite negative, _ => negative
  | .finite negative m e, n =>
    let m : Int := if negative then -m else m
    if 0 ≤ e then m * Nat.pow 2 e.toNat ≤ n else m ≤ n * Nat.pow 2 (-e).toNat

/-- Whether the number is at least the whole number `n`. -/
def geInt : Binary64 → Int → Bool
  | .nan, _ => false
  | .infinite negative, _ => !negative
  | .finite negative m e, n =>
    let m : Int := if negative then -m else m
    if 0 ≤ e then n ≤ m * Nat.pow 2 e.toNat else n * Nat.pow 2 (-e).toNat ≤ m

/-- Whether the number is smaller than another one. -/
def isLess : Binary64 → Binary64 → Bool
  | .nan, _ => false
  | _, .nan => false
  | .infinite negative, y => negative && y != .infinite true
  | x, .infinite negative => !negative && x != .infinite false
  | .finite xNegative m e, .finite yNegative n f =>
    let scaled (negative : Bool) (k : Nat) (g : Int) : Int :=
      let k : Int := k * Nat.pow 2 (g - min e 0 - min f 0).toNat
      if negative then -k else k
    scaled xNegative m e < scaled yNegative n f

/-- Whether the number is a whole number. -/
def isWhole : Binary64 → Bool
  | .finite _ m e => 0 ≤ e || m % Nat.pow 2 (-e).toNat = 0
  | _ => false

end Binary64

end VectorLint
