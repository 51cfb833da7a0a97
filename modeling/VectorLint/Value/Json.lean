import VectorLint.Number.Written
import VectorLint.Text.Quoted
import VectorLint.Value.Basic

/-!
# JSON text of a value

Written JSON is printable ASCII: in a text, control characters and everything above the tilde are
escaped by their UTF-16 units. There are two layouts, one line with a blank after each comma and
colon, and one item a line with two more blanks of indentation at each level. A fixed sequence is
written as an array. A script has no JSON form, and the text that stands for it in messages is
written in quotes. What keeps a value from being written is the matter of its limits.
-/

namespace VectorLint.Value

/-- A UTF-16 unit as a JSON escape. -/
def unitEscape (n : Nat) : List Char := '\\' :: 'u' :: Text.hexDigits 4 n

/-- One character inside a JSON string. -/
def jsonChar (c : Char) : List Char :=
  if c = '"' then ['\\', '"']
  else if c = '\\' then ['\\', '\\']
  else if c = '\n' then ['\\', 'n']
  else if c = '\r' then ['\\', 'r']
  else if c = '\t' then ['\\', 't']
  else if c = '\x0c' then ['\\', 'f']
  else if c = '\x08' then ['\\', 'b']
  else
    let n := c.toNat
    if 0x20 ≤ n && n < 0x7F then [c]
    else if n < 0x10000 then unitEscape n
    else
      let m := n - 0x10000
      unitEscape (0xD800 + m / 0x400) ++ unitEscape (0xDC00 + m % 0x400)

/-- A text as a JSON string. -/
def jsonString (s : String) : String :=
  String.ofList ('"' :: s.toList.flatMap jsonChar ++ ['"'])

/-- How JSON text is laid out. -/
inductive Layout where
  | oneLine
  | indented
  deriving DecidableEq, Repr

/-- A line break and the indentation of a depth; nothing in the layout of one line. -/
def Layout.newLine : Layout → Nat → String
  | .oneLine, _ => ""
  | .indented, depth => "\n" ++ String.ofList (List.replicate (2 * depth) ' ')

/-- What separates the items at a depth. -/
def Layout.separator : Layout → Nat → String
  | .oneLine, _ => ", "
  | .indented, depth => "," ++ Layout.indented.newLine depth

/-- Written items between brackets that stand at `depth`. Without items nothing stands between the
brackets. -/
def Layout.bracketed (layout : Layout) (depth : Nat) (left right : String) :
    List String → String
  | [] => left ++ right
  | item :: items =>
    left ++ layout.newLine (depth + 1)
      ++ (layout.separator (depth + 1)).intercalate (item :: items)
      ++ layout.newLine depth ++ right

mutual

/-- The JSON text of a value whose brackets stand at `depth`. -/
def jsonAt (layout : Layout) (depth : Nat) : Value → String
  | .null => "null"
  | .bool b => if b then "true" else "false"
  | .int i => toString i
  | .float x => x.written .json
  | .text s => jsonString s
  | .script _ written => jsonString written
  | .list items => layout.bracketed depth "[" "]" (jsonItems layout (depth + 1) items)
  | .tuple items => layout.bracketed depth "[" "]" (jsonItems layout (depth + 1) items)
  | .object fields =>
    layout.bracketed depth "\x7b" "\x7d" (jsonFields layout (depth + 1) fields)

/-- The JSON texts of the items of an array. -/
def jsonItems (layout : Layout) (depth : Nat) : List Value → List String
  | [] => []
  | item :: items => jsonAt layout depth item :: jsonItems layout depth items

/-- The JSON texts of the fields of an object. -/
def jsonFields (layout : Layout) (depth : Nat) : List (String × Value) → List String
  | [] => []
  | (name, value) :: fields =>
    (jsonString name ++ ": " ++ jsonAt layout depth value) :: jsonFields layout depth fields

end

/-- The JSON text of a value on one line. -/
def json (v : Value) : String := v.jsonAt .oneLine 0

/-- The JSON text of a value with one item a line. -/
def indentedJson (v : Value) : String := v.jsonAt .indented 0

end VectorLint.Value
