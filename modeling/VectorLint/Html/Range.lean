import VectorLint.Html.Basic
import VectorLint.Number.Binary64
import VectorLint.Report.Failure

/-!
# Ranges of fields

A field for a number, a date or a time may have a least and a greatest value. Its value is out of
range if it lies below the one or above the other; a field without a valid value is in range, and
one without a valid bound is neither. Times of the day go round: if the least one is later than the
greatest, the range goes over midnight.
-/

namespace VectorLint.Html

/-- A value of a field: a number, or the numbers of a date or a time with the largest unit first. -/
inductive Amount where
  | number (x : Binary64)
  | moment (parts : List Nat)
  deriving DecidableEq, Repr

/-- Whether a value lies before another one. -/
def Amount.isBefore : Amount → Amount → Bool
  | .number x, .number y => x.isLess y
  | .moment xs, .moment ys => xs < ys
  | _, _ => false

/-- A text without a line feed at its end. -/
def withoutFeed (cs : List Char) : List Char := if cs.getLast? = some '\n' then cs.dropLast else cs

/-- The number that decimal digits write. -/
def decimal (digits : List Char) : Nat :=
  digits.foldl (fun n c ↦ n * 10 + (c.toNat - '0'.toNat)) 0

/-- The number that exactly so many digits write. -/
def digits? (count : Nat) (cs : List Char) : Option Nat :=
  if cs.length = count && cs.all Char.isDigit then some (decimal cs) else none

/-- A decimal number: digits, perhaps behind a minus sign and with a point before or among them. -/
def number? (cs : List Char) : Option Binary64 := do
  let (isNegative, cs) := match cs with
    | '-' :: cs => (true, cs)
    | cs => (false, cs)
  let whole := cs.takeWhile Char.isDigit
  match cs.drop whole.length with
  | [] => if whole.isEmpty then none else some (.ofDecimal isNegative (decimal whole) 0)
  | '.' :: places =>
    if places.isEmpty || !places.all Char.isDigit then none
    else some (.ofDecimal isNegative (decimal (whole ++ places)) (-places.length))
  | _ => none

/-! ## The calendar -/

/-- Whether a year has a day more than others. -/
def isLeap (year : Nat) : Bool := (year % 4 = 0 && year % 100 ≠ 0) || year % 400 = 0

/-- The number of days of a month. -/
def daysIn (year month : Nat) : Nat :=
  if month = 2 then (if isLeap year then 29 else 28)
  else if [4, 6, 9, 11].contains month then 30
  else 31

/-- The day of the week of the last day of a year; Monday is the first, counted from one. -/
def lastWeekday (year : Nat) : Nat := (365 * year + year / 4 - year / 100 + year / 400 - 1) % 7 + 1

/-- The number of the last week of a year. A week belongs to the year that has its Thursday, so the
last days of a year may be in the first week of the next one. -/
def lastWeek (year : Nat) : Nat :=
  let weekday := lastWeekday year
  if weekday ≤ 3 then 52 else ((if isLeap year then 366 else 365) + 10 - weekday) / 7

/-- The most digits that a number may be written with. -/
def maxDigits : Nat := 4300

/-- The failure of reading a number with too many digits. -/
def tooManyDigits (count : Nat) : Failure :=
  ⟨.value, "Exceeds the limit (" ++ toString maxDigits
    ++ " digits) for integer string conversion: value has " ++ toString count
    ++ " digits; use sys.set_int_max_str_digits() to increase the limit"⟩

/-- The year that at least four digits write. -/
def year? (cs : List Char) : Except Failure (Option Nat) :=
  if cs.length < 4 || !cs.all Char.isDigit then .ok none
  else if cs.length > maxDigits then .error (tooManyDigits cs.length)
  else .ok (some (decimal cs))

/-- What stands before the last `count` characters of a text, and those. -/
def cut (count : Nat) (cs : List Char) : List Char × List Char :=
  (cs.take (cs.length - count), cs.drop (cs.length - count))

/-- A month: a year, a hyphen and two digits. -/
def month? (cs : List Char) : Except Failure (Option (Nat × Nat)) := do
  let (front, rest) := cut 3 cs
  match rest with
  | '-' :: rest =>
    let some month := digits? 2 rest | return none
    return (← year? front).map fun year ↦ (year, month)
  | _ => return none

/-- A time of the day: hours and minutes. -/
def time? (cs : List Char) : Option (List Nat) := do
  let (hours, rest) := (cs.take 2, cs.drop 2)
  let ':' :: rest := rest | none
  let hour ← digits? 2 hours
  let minute ← digits? 2 rest
  if hour ≤ 23 && minute ≤ 59 then some [hour, minute] else none

/-- Whether there is such a month. -/
def isMonth (year month : Nat) : Bool := 1 ≤ year && 1 ≤ month && month ≤ 12

/-- A day: a month, a hyphen and two digits. -/
def date? (cs : List Char) : Except Failure (Option (List Nat)) := do
  let (front, rest) := cut 3 cs
  match rest with
  | '-' :: rest =>
    let some day := digits? 2 rest | return none
    let some (year, month) ← month? front | return none
    if isMonth year month && 1 ≤ day && day ≤ daysIn year month then
      return some [year, month, day]
    return none
  | _ => return none

/-- The failure of asking for the weeks of a year beyond the calendar. -/
def beyondCalendar (year : Nat) : Failure :=
  if year < Nat.pow 2 31 then ⟨.value, "year " ++ toString year ++ " is out of range"⟩
  else if year < Nat.pow 2 63 then ⟨.overflow, "signed integer is greater than maximum"⟩
  else ⟨.overflow, "Python int too large to convert to C long"⟩

/-- A week: a year, a hyphen, a `W` and two digits. The calendar ends with the year 9999. -/
def week? (cs : List Char) : Except Failure (Option (List Nat)) := do
  let (front, rest) := cut 4 cs
  match rest with
  | '-' :: 'W' :: rest =>
    let some week := digits? 2 rest | return none
    let some year ← year? front | return none
    if year = 0 then return none
    if year > 9999 then throw (beyondCalendar year)
    if 1 ≤ week && week ≤ lastWeek year then return some [year, week]
    return none
  | _ => return none

/-- A day and a time of it with a `T` between them. -/
def dateTime? (cs : List Char) : Except Failure (Option (List Nat)) := do
  let (front, rest) := cut 6 cs
  match rest with
  | 'T' :: rest =>
    let some time := time? rest | return none
    return (← date? front).map (· ++ time)
  | _ => return none

/-- The value that a text writes in a field of some type. -/
def amount? (kind : String) (text : String) : Except Failure (Option Amount) := do
  let cs := withoutFeed text.toList
  match kind with
  | "date" => return (← date? cs).map .moment
  | "month" =>
    match ← month? cs with
    | some (year, month) => return if isMonth year month then some (.moment [year, month]) else none
    | none => return none
  | "week" => return (← week? cs).map .moment
  | "time" => return (time? cs).map .moment
  | "datetime-local" => return (← dateTime? cs).map .moment
  | "number" => return (number? cs).map .number
  | "range" => return (number? cs).map .number
  | _ => return none

/-! ## Ranges -/

/-- Whether a value is outside the bounds that are given. -/
def isOutside (goesRound : Bool) (least greatest : Option Amount) (x : Amount) : Bool :=
  let below := least.any fun m ↦ x.isBefore m
  let above := greatest.any fun m ↦ m.isBefore x
  match least, greatest with
  | some m, some n => if goesRound && n.isBefore m then below && above else below || above
  | _, _ => below || above

/-- Whether a field is in range, or out of range; no field is both, and one without bounds is
neither. It fails for a field without a type. -/
def isRanged (wantsInside : Bool) (p : Place) : Except Failure Bool := do
  let some type := p.tag.get? "type" | throw ⟨.type, "'NoneType' object is not iterable"⟩
  let kind := small type
  let read (name : String) : Except Failure (Option Amount) :=
    match p.tag.get? name with
    | some text => amount? kind text
    | none => .ok none
  let least ← read "min"
  let greatest ← read "max"
  if least.isNone && greatest.isNone then return false
  let outside := (← read "value").any (isOutside (kind = "time") least greatest)
  return outside != wantsInside

end VectorLint.Html
