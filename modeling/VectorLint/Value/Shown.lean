import VectorLint.Number.Written
import VectorLint.Text.Quoted
import VectorLint.Value.Basic

/-!
# Values in messages

Messages show a value in a notation of their own, which tells the kinds of value apart: texts are
quoted, a list has brackets and a fixed sequence parentheses, and a sequence of one item keeps its
comma. A script is shown by the text that stands for it. A text that is itself the message is shown
bare.
-/

namespace VectorLint.Value

mutual

/-- A value as messages show it. -/
def shown : Value → String
  | .null => "None"
  | .bool b => if b then "True" else "False"
  | .int i => toString i
  | .float x => x.written .plain
  | .text s => Text.quoted s
  | .script _ written => written
  | .list items => "[" ++ ", ".intercalate (shownItems items) ++ "]"
  | .tuple [item] => "(" ++ item.shown ++ ",)"
  | .tuple items => "(" ++ ", ".intercalate (shownItems items) ++ ")"
  | .object fields => "\x7b" ++ ", ".intercalate (shownFields fields) ++ "\x7d"

/-- The items of a sequence as messages show them. -/
def shownItems : List Value → List String
  | [] => []
  | item :: items => item.shown :: shownItems items

/-- The fields of an object as messages show them. -/
def shownFields : List (String × Value) → List String
  | [] => []
  | (name, value) :: fields => (Text.quoted name ++ ": " ++ value.shown) :: shownFields fields

end

/-- A value that is used as a text: a text stands for itself. -/
def plain : Value → String
  | .text s => s
  | v => v.shown

/-- A list of texts as messages show it. -/
def shownTexts (texts : List String) : String :=
  "[" ++ ", ".intercalate (texts.map Text.quoted) ++ "]"

end VectorLint.Value
