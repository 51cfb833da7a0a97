import VectorLint.Number.Binary64

/-!
# The shortest decimal that reads back

A number of double precision is written with the fewest digits from which the same number is
read again. The reals that round to `m * 2 ^ e` form an interval, its ends included when `m` is
even. For one digit, two digits and so on, the two neighbours of the number on that decimal grid
are tested against the interval; the first grid with a hit gives the digits, and of two hits the
nearer one counts. If any point of a grid lies in the interval then one of the two neighbours
does, so no shorter decimal reads back.
-/

namespace VectorLint.Binary64

/-- A decimal number `0.d₁d₂…dₙ * 10 ^ point`, as its digits and the place of its point. -/
structure Decimal where
  digits : List Char
  point : Int
  deriving DecidableEq, Repr

/-- A number, and the lower and upper end of the interval of the reals that round to it, all three
counted in multiples of `1 / unit`. -/
structure Interval where
  value : Nat
  low : Nat
  high : Nat
  unit : Nat
  closed : Bool

/-- The interval of `m * 2 ^ e`. The lower end is closer by half at a power of two, since the
numbers below it are twice as dense. -/
def Interval.of (m : Nat) (e : Int) : Interval :=
  let low := if m = Nat.pow 2 52 && e > minExponent then 4 * m - 1 else 4 * m - 2
  let up := if 2 ≤ e then Nat.pow 2 (e - 2).toNat else 1
  let down := if 2 ≤ e then 1 else Nat.pow 2 (2 - e).toNat
  { value := 4 * m * up, low := low * up, high := (4 * m + 2) * up, unit := down
    closed := m % 2 == 0 }

/-- Whether `d` multiples of `10 ^ k` lie in the interval. -/
def Interval.holds (i : Interval) (d : Nat) (k : Int) : Bool :=
  let x := if 0 ≤ k then d * Nat.pow 10 k.toNat * i.unit else d * i.unit
  let scale := if 0 ≤ k then 1 else Nat.pow 10 (-k).toNat
  if i.closed then i.low * scale ≤ x && x ≤ i.high * scale
  else i.low * scale < x && x < i.high * scale

/-- The decimal exponent of the number: the least `p` with `value < 10 ^ p`. -/
def Interval.point (i : Interval) : Int :=
  let whole := i.value / i.unit
  if whole > 0 then (Nat.toDigits 10 whole).length
  else
    let leadingZeros := (List.range 400).find? fun k ↦ i.unit ≤ i.value * Nat.pow 10 (k + 1)
    Int.negOfNat (leadingZeros.getD 0)

/-- The digits on the grid with `n` digits, if that grid has a point in the interval. -/
def Interval.onGrid? (i : Interval) (n : Nat) : Option Decimal :=
  let k := i.point - n
  let num := if 0 ≤ k then i.value else i.value * Nat.pow 10 (-k).toNat
  let den := if 0 ≤ k then i.unit * Nat.pow 10 k.toNat else i.unit
  let below := num / den
  let twice := 2 * (num % den)
  let nearer := if twice > den || (twice == den && below % 2 == 1) then below + 1 else below
  let other := if nearer == below then below + 1 else below
  let written (d : Nat) : Decimal :=
    let ds := Nat.toDigits 10 d
    { digits := ds, point := k + ds.length }
  if i.holds nearer k then some (written nearer)
  else if i.holds other k then some (written other)
  else none

/-- The shortest decimal that reads back as `m * 2 ^ e`, zeros at its end dropped. Seventeen
digits always suffice. -/
def shortest (m : Nat) (e : Int) : Decimal :=
  if m = 0 then { digits := ['0'], point := 1 }
  else
    let i := Interval.of m e
    match (List.range 17).findSome? fun n ↦ i.onGrid? (n + 1) with
    | some d => { d with digits := (d.digits.reverse.dropWhile (· == '0')).reverse }
    | none => { digits := ['0'], point := 1 }

end VectorLint.Binary64
