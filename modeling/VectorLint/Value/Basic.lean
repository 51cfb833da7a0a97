import VectorLint.Number.Binary64
import VectorLint.Rule.Script

/-!
# Configuration values

A configuration is made of JSON values, and of two kinds of value that JSON lacks but a program
that calls the library may pass: a sequence of fixed length, and a rule given as a script. Whole
numbers and fractions are kept apart, since the form of a number decides what a rule accepts and
how a message shows it. The fields of an object keep their order.
-/

namespace VectorLint

/-- A configuration value. -/
inductive Value where
  | null
  | bool (b : Bool)
  | int (i : Int)
  | float (x : Binary64)
  | text (s : String)
  | list (items : List Value)
  | tuple (items : List Value)
  | object (fields : List (String × Value))
  /-- A rule that is given as a program, and the text that stands for it in messages. -/
  | script (s : Script) (written : String)
  deriving Inhabited

namespace Value

/-- The name of a value's kind, as messages show it. -/
def kindName : Value → String
  | .null => "NoneType"
  | .bool _ => "bool"
  | .int _ => "int"
  | .float _ => "float"
  | .text _ => "str"
  | .list _ => "list"
  | .tuple _ => "tuple"
  | .object _ => "dict"
  | .script _ _ => "function"

/-- The fields of an object. -/
def fields? : Value → Option (List (String × Value))
  | .object fields => some fields
  | _ => none

/-- The text of a text value. -/
def text? : Value → Option String
  | .text s => some s
  | _ => none

/-- The items of a list or a fixed sequence. -/
def items? : Value → Option (List Value)
  | .list items => some items
  | .tuple items => some items
  | _ => none

/-- The texts of a sequence that holds nothing but texts. -/
def texts? (v : Value) : Option (List String) := v.items?.bind fun items ↦ items.mapM text?

/-- Whether the value is a number; the truth values are not. -/
def isNumber : Value → Bool
  | .int _ => true
  | .float _ => true
  | _ => false

/-- Whether the number is at most `n`. -/
def leInt : Value → Int → Bool
  | .int i, n => i ≤ n
  | .float x, n => x.leInt n
  | _, _ => false

/-- Whether the number is at least `n`. -/
def geInt : Value → Int → Bool
  | .int i, n => n ≤ i
  | .float x, n => x.geInt n
  | _, _ => false

end Value

/-- Fields with the value of `name` set: a name that is there keeps its place, a new one goes to the
end. -/
def Fields.put (name : String) (v : Value) : List (String × Value) → List (String × Value)
  | [] => [(name, v)]
  | (k, old) :: rest => if k = name then (k, v) :: rest else (k, old) :: Fields.put name v rest

/-- The value of a name. -/
def Fields.get? (fields : List (String × Value)) (name : String) : Option Value :=
  fields.lookup name

end VectorLint
