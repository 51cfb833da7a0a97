import VectorLint.Report.Failure
import VectorLint.Text.Alphanumeric
import VectorLint.Text.Blank
import VectorLint.Text.Lowercase
import VectorLint.Text.Pieces

/-!
# Styles

A style is written as words: attributes of letters, which may be denied, a color, a color of the
ground behind the word "on", and an address behind the word "link". The words may stand in any order
and attributes have short names, so one style has many forms. The canonical form writes attributes
in their own order, and then the colors and the address. A text that is no style counts as a name of
its own.

Colors are named, numbered or given by their components. A missing component is a failure rather
than no color.
-/

namespace VectorLint.Terminal

/-- The attributes of letters in canonical order, each with its short name. -/
def attributeNames : List (String × Option String) :=
  [("bold", some "b"), ("dim", some "d"), ("italic", some "i"), ("underline", some "u"),
    ("blink", none), ("blink2", none), ("reverse", some "r"), ("conceal", some "c"),
    ("strike", some "s"), ("underline2", some "uu"), ("frame", none), ("encircle", none),
    ("overline", some "o")]

/-- The attribute with a full or a short name. -/
def attribute? (word : String) : Option String :=
  (attributeNames.find? fun (name, short) ↦ name = word || short = some word).map (·.1)

/-- The words of a text. -/
def wordsOf (s : String) : List String :=
  ((Text.pieces ' ' (s.toList.map fun c ↦ if Text.isBlank c then ' ' else c)).filter
    (!·.isEmpty)).map String.ofList

/-- The names of colors. -/
def colorNames : List String := wordsOf <|
  "black red green yellow blue magenta cyan white bright_black bright_red bright_green " ++
  "bright_yellow bright_blue bright_magenta bright_cyan bright_white grey0 gray0 navy_blue " ++
  "dark_blue blue3 blue1 dark_green deep_sky_blue4 dodger_blue3 dodger_blue2 green4 " ++
  "spring_green4 turquoise4 deep_sky_blue3 dodger_blue1 green3 spring_green3 dark_cyan " ++
  "light_sea_green deep_sky_blue2 deep_sky_blue1 spring_green2 cyan3 dark_turquoise turquoise2 " ++
  "green1 spring_green1 medium_spring_green cyan2 cyan1 dark_red deep_pink4 purple4 purple3 " ++
  "blue_violet orange4 grey37 gray37 medium_purple4 slate_blue3 royal_blue1 chartreuse4 " ++
  "dark_sea_green4 pale_turquoise4 steel_blue steel_blue3 cornflower_blue chartreuse3 " ++
  "cadet_blue sky_blue3 steel_blue1 pale_green3 sea_green3 aquamarine3 medium_turquoise " ++
  "chartreuse2 sea_green2 sea_green1 aquamarine1 dark_slate_gray2 dark_magenta dark_violet " ++
  "purple light_pink4 plum4 medium_purple3 slate_blue1 yellow4 wheat4 grey53 gray53 " ++
  "light_slate_grey light_slate_gray medium_purple light_slate_blue dark_olive_green3 " ++
  "dark_sea_green light_sky_blue3 sky_blue2 dark_sea_green3 dark_slate_gray3 sky_blue1 " ++
  "chartreuse1 light_green pale_green1 dark_slate_gray1 red3 medium_violet_red magenta3 " ++
  "dark_orange3 indian_red hot_pink3 medium_orchid3 medium_orchid medium_purple2 dark_goldenrod " ++
  "light_salmon3 rosy_brown grey63 gray63 medium_purple1 gold3 dark_khaki navajo_white3 grey69 " ++
  "gray69 light_steel_blue3 light_steel_blue yellow3 dark_sea_green2 light_cyan3 " ++
  "light_sky_blue1 green_yellow dark_olive_green2 dark_sea_green1 pale_turquoise1 deep_pink3 " ++
  "magenta2 hot_pink2 orchid medium_orchid1 orange3 light_pink3 pink3 plum3 violet " ++
  "light_goldenrod3 tan misty_rose3 thistle3 plum2 khaki3 light_goldenrod2 light_yellow3 grey84 " ++
  "gray84 light_steel_blue1 yellow2 dark_olive_green1 honeydew2 light_cyan1 red1 deep_pink2 " ++
  "deep_pink1 magenta1 orange_red1 indian_red1 hot_pink dark_orange salmon1 light_coral " ++
  "pale_violet_red1 orchid2 orchid1 orange1 sandy_brown light_salmon1 light_pink1 pink1 plum1 " ++
  "gold1 navajo_white1 misty_rose1 thistle1 yellow1 light_goldenrod1 khaki1 wheat1 cornsilk1 " ++
  "grey100 gray100 grey3 gray3 grey7 gray7 grey11 gray11 grey15 gray15 grey19 gray19 grey23 " ++
  "gray23 grey27 gray27 grey30 gray30 grey35 gray35 grey39 gray39 grey42 gray42 grey46 gray46 " ++
  "grey50 gray50 grey54 gray54 grey58 gray58 grey62 gray62 grey66 gray66 grey70 gray70 grey74 " ++
  "gray74 grey78 gray78 grey82 gray82 grey85 gray85 grey89 gray89 grey93 gray93"

/-! ## Colors -/

/-- The number that some digits write. -/
def number? (cs : List Char) : Option Nat :=
  if cs.isEmpty || !cs.all Char.isDigit then none
  else some (cs.foldl (fun n c ↦ 10 * n + (c.toNat - '0'.toNat)) 0)

/-- What stands between a word at the beginning and a parenthesis at the end of a text. -/
def arguments? (word : String) (cs : List Char) : Option (List Char) :=
  let opening := word.toList ++ ['(']
  if opening.isPrefixOf cs && cs.getLast? = some ')' then some (cs.drop opening.length).dropLast
  else none

/-- The greatest component of a color. -/
def greatestComponent : Nat := 255

/-- The most digits that a component may be written with. -/
def mostComponentDigits : Nat := 4300

/-- The component that decimal digits of any script write. -/
def component (digits : List Char) : Except Failure Nat :=
  if digits.isEmpty then .error ⟨.value, "invalid literal for int() with base 10: ''"⟩
  else if mostComponentDigits < digits.length then
    .error ⟨.value, "Exceeds the limit (" ++ toString mostComponentDigits
      ++ " digits) for integer string conversion: value has " ++ toString digits.length
      ++ " digits; use sys.set_int_max_str_digits() to increase the limit"⟩
  else .ok (digits.foldl (fun n c ↦ 10 * n + (Text.digit? c).getD 0) 0)

/-- Whether a text in small letters is a color that is given by a number for each component. -/
def isComponents (cs : List Char) : Except Failure Bool :=
  match arguments? "rgb" cs with
  | none => .ok false
  | some args =>
    if args.isEmpty || !args.all fun c ↦ c = ',' || (Text.digit? c).isSome then .ok false
    else
      let components := Text.pieces ',' args
      if components.length ≠ 3 then .ok false
      else do return (← components.mapM component).all (· ≤ greatestComponent)

/-- Whether a word in small letters is a color. -/
def isColor (word : String) : Except Failure Bool :=
  let cs := word.toList
  let isHexadecimal := cs.length = 7 && cs.head? = some '#'
    && (cs.drop 1).all fun c ↦ c.isDigit || ('a' ≤ c && c ≤ 'f')
  let isNumbered := match arguments? "color" cs with
    | some args => args.length ≤ 3 && (number? args).any (· ≤ greatestComponent)
    | none => false
  if word = "default" || colorNames.contains word || isHexadecimal || isNumbered then .ok true
  else isComponents cs

/-! ## Styles from words -/

/-- A style: its attributes, each with whether it is wanted, its colors and its address. -/
structure Style where
  attributes : List (String × Bool) := []
  color : Option String := none
  ground : Option String := none
  address : Option String := none
  deriving DecidableEq, Repr

namespace Style

/-- A style with one more attribute; what is said last counts. -/
def set (s : Style) (feature : String) (isWanted : Bool) : Style :=
  { s with attributes := (feature, isWanted) :: s.attributes }

/-- The style of words behind those of another style, if they are those of a style. -/
def ofWords? (s : Style) : List String → Except Failure (Option Style)
  | [] => .ok (some s)
  | word :: words =>
    let small := Text.lowercase word
    match small, words with
    | "on", [] => .ok none
    | "on", color :: words => do
      let color := Text.lowercase color
      if ← isColor color then ofWords? { s with ground := some color } words else return none
    | "not", [] => .ok none
    | "not", name :: words =>
      match attribute? name with
      | some feature => ofWords? (s.set feature false) words
      | none => .ok none
    | "link", [] => .ok none
    | "link", address :: words => ofWords? { s with address := some address } words
    | _, words =>
      match attribute? small with
      | some feature => ofWords? (s.set feature true) words
      | none => do
        if ← isColor small then ofWords? { s with color := some small } words else return none

/-- A style in its canonical form. -/
def canonical (s : Style) : String :=
  let attributes := attributeNames.filterMap fun (name, _) ↦
    (s.attributes.lookup name).map fun isWanted ↦ if isWanted then name else "not " ++ name
  let parts := attributes ++ s.color.toList ++ (s.ground.map ("on " ++ ·)).toList
    ++ (s.address.map ("link " ++ ·)).toList
  if parts.isEmpty then "none" else " ".intercalate parts

/-- The canonical form of a text that may be a style. A text that is none is taken in small letters
and without the blanks at its ends. -/
def canonicalText (s : String) : Except Failure String := do
  let trimmed := ((s.toList.dropWhile Text.isBlank).reverse.dropWhile Text.isBlank).reverse
  let trimmed := String.ofList trimmed
  if trimmed = "none" then return "none"
  match ← ofWords? {} (wordsOf s) with
  | some style => return style.canonical
  | none => return Text.lowercase trimmed

end Style

end VectorLint.Terminal
