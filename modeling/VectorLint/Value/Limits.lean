import VectorLint.Value.Json
import VectorLint.Value.Reader
import VectorLint.Value.Shown

/-!
# Limits of writing

Not every value can be written. A whole number of too many digits is refused, and so are brackets
that nest too deeply: each level takes room on the stack, and how much of it is left depends on the
settings and on who asks. Both ways to write a value, as JSON and as messages show it, fail at the
first thing in it that cannot be written. In JSON only what nests takes a level, in a message every
value does.

A text that is itself the message is not written in this sense, and nothing keeps it from being one.
-/

namespace VectorLint

/-- What bounds the writing of values: the digits of a whole number, and the levels of brackets. -/
structure Limits where
  digits : Nat
  depth : Nat
  deriving DecidableEq, Repr

/-- The limits where nothing else is set, for who asks from the outermost calls. -/
def Limits.standard : Limits := ⟨Json.maxDigits, 988⟩

/-- The failure to write a whole number. -/
def Limits.tooLong (limits : Limits) : Failure :=
  ⟨.value, "Exceeds the limit (" ++ toString limits.digits ++ " digits) for integer string "
    ++ "conversion; use sys.set_int_max_str_digits() to increase the limit"⟩

namespace Value

/-- The ways to write a value. -/
inductive Writing where
  | json
  | shown
  deriving DecidableEq, Repr

/-- The failure to write one more level. -/
def Writing.tooDeep (w : Writing) : Failure :=
  ⟨.recursion, "maximum recursion depth exceeded while " ++ match w with
    | .json => "encoding a JSON object"
    | .shown => "getting the repr of an object"⟩

/-- Whether a value is written with others inside it. A script is written as the text that stands
for it. -/
def nests : Value → Bool
  | .list _ => true
  | .tuple _ => true
  | .object _ => true
  | .script _ _ => true
  | _ => false

mutual

/-- The first thing that keeps a value from being written when `depth` levels are left. The names of
fields need no look: they are as deep as the values beside them. -/
def obstacle? (limits : Limits) (w : Writing) (depth : Nat) (v : Value) : Option Failure :=
  if depth = 0 && (v.nests || w = .shown) then some w.tooDeep
  else
    match v with
    | .int i => if Nat.pow 10 limits.digits ≤ i.natAbs then some limits.tooLong else none
    | .list items => itemsObstacle? limits w (depth - 1) items
    | .tuple items => itemsObstacle? limits w (depth - 1) items
    | .object fields => fieldsObstacle? limits w (depth - 1) fields
    | _ => none

/-- The first thing that keeps the items of a sequence from being written. -/
def itemsObstacle? (limits : Limits) (w : Writing) (depth : Nat) : List Value → Option Failure
  | [] => none
  | item :: items => (item.obstacle? limits w depth).or (itemsObstacle? limits w depth items)

/-- The first thing that keeps the fields of an object from being written. -/
def fieldsObstacle? (limits : Limits) (w : Writing) (depth : Nat) :
    List (String × Value) → Option Failure
  | [] => none
  | (_, v) :: fields => (v.obstacle? limits w depth).or (fieldsObstacle? limits w depth fields)

end

/-- The text of a value in one of the ways to write it, whatever the limits. -/
def Writing.write : Writing → Value → String
  | .json, v => v.json
  | .shown, v => v.shown

/-- The text of a value in one of the ways to write it, if nothing keeps it from being written. -/
def written (limits : Limits) (w : Writing) (v : Value) : Except Failure String :=
  match v.obstacle? limits w limits.depth with
  | some f => .error f
  | none => .ok (w.write v)

/-- The refusal of a value that is configured, with a message in which the value is written. If it
cannot be written, this is what fails. -/
def refused {α : Type} (limits : Limits) (w : Writing) (v : Value) (message : String → String) :
    Except Failure α := do
  throw ⟨.configuration, message (← v.written limits w)⟩

/-- What keeps a value from being used as a text. -/
def unspoken? (limits : Limits) : Value → Option Failure
  | .text _ => none
  | v => v.obstacle? limits .shown limits.depth

/-- A value that is used as a text, if nothing keeps it from being written. -/
def spoken (limits : Limits) (v : Value) : Except Failure String :=
  match v.unspoken? limits with
  | some f => .error f
  | none => .ok v.plain

end Value

end VectorLint
