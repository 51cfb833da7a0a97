import VectorLint.Selector.Basic
import VectorLint.Selector.Fault
import VectorLint.Selector.Scan
import VectorLint.Text.Folding

/-!
# Tokens of selector text

Selector text consists of tokens. A pseudo-class that takes a list of texts, a formula or a
direction is one token together with what stands between its parentheses; if that is not of the
right form, the pseudo-class is an ordinary one, which may be followed by selectors. White space and
comments around the whole text do not count.
-/

namespace VectorLint.Selector

open Scan

/-- A number that is written with a sign and decimal digits. -/
structure Signed where
  isNegative : Bool
  digits : List Char

/-- The number zero. -/
def Signed.zero : Signed := ⟨false, ['0']⟩

/-- A formula for numbers: `an+b`, or `b` alone. -/
structure Formula where
  step : Signed
  offset : Signed

/-- What a token is. Names and values are as they are written. -/
inductive Token.Kind where
  | close
  | texts (name : String) (values : List Char)
  /-- A number among all siblings; a list of selectors may follow that says which ones count. -/
  | nthChild (name : String) (formula : Formula) (hasList : Bool)
  | nthOfType (name : String) (formula : Formula)
  | language (values : List Char)
  | direction (d : Text.Direction)
  | custom (name : List Char)
  | pseudoClass (name : List Char) (isOpen : Bool)
  | pseudoElement
  | nesting
  | atRule
  | id (name : List Char)
  | className (name : List Char)
  | tag (space : Option (List Char)) (name : List Char)
  | attribute (space name : List Char) (comparison : Option (Char × List Char × Option Char))
  | combinator (c : Char)

/-- A token, with the place where it begins and the place behind it. -/
structure Token where
  kind : Token.Kind
  start : Nat
  stop : Nat

namespace Token

/-- A token's kind, and the text behind it. -/
abbrev Found := Option (Kind × List Char)

/-- A closing parenthesis, behind blanks. -/
def close? (cs : List Char) : Option (List Char) :=
  match skipBlanks cs with
  | ')' :: rest => some rest
  | _ => none

/-- Whether a text begins with a word, in small or capital letters; the text behind it. -/
def word? (word : String) (cs : List Char) : Option (List Char) :=
  let w := word.toList
  if (cs.take w.length).map Char.toLower = w then some (cs.drop w.length) else none

/-- Whether a sign is a minus, if there is one, and the text behind it. -/
def sign? : List Char → Option (Bool × List Char)
  | '-' :: rest => some (true, rest)
  | '+' :: rest => some (false, rest)
  | _ => none

/-- The summand of a formula: a sign and digits. -/
def summand? (cs : List Char) : Option (Signed × List Char) := do
  let (isNegative, rest) ← sign? (skipBlanks cs)
  let rest := skipBlanks rest
  let digits := rest.takeWhile Char.isDigit
  if digits.isEmpty then none
  return (⟨isNegative, digits⟩, rest.drop digits.length)

/-- A formula, or one of the words for every other number, and the text behind it. -/
def formula? (cs : List Char) : Option (Formula × List Char) :=
  let (isNegative, unsigned) := (sign? cs).getD (false, cs)
  let digits := unsigned.takeWhile Char.isDigit
  let rest := unsigned.drop digits.length
  match word? "n" rest with
  | some rest =>
    let step : Signed := ⟨isNegative, if digits.isEmpty then ['1'] else digits⟩
    match summand? rest with
    | some (offset, rest) => some (⟨step, offset⟩, rest)
    | none => some (⟨step, .zero⟩, rest)
  | none =>
    if !digits.isEmpty then some (⟨.zero, ⟨isNegative, digits⟩⟩, rest)
    else
      match word? "even" cs, word? "odd" cs with
      | some rest, _ => some (⟨⟨false, ['2']⟩, .zero⟩, rest)
      | none, some rest => some (⟨⟨false, ['2']⟩, ⟨false, ['1']⟩⟩, rest)
      | none, none => none

/-- Comments, and at least one white space behind them. -/
def gap? (cs : List Char) : Option (List Char) := do
  let (_, rest) ← space? (repeated comment? cs).2
  return skipBlanks rest

/-- The word that begins a list of the siblings that count. -/
def ofList? (cs : List Char) : Option (List Char) := do
  gap? (← word? "of" (← gap? cs))

/-- The names of the pseudo-classes that take a list of texts. -/
def textNames : List String := [":contains", ":-soup-contains", ":-soup-contains-own"]

/-- A pseudo-class whose parentheses hold something else than selectors; `cs` begins behind the
opening one. -/
def special? (name : String) (cs : List Char) : Found := do
  if textNames.contains name then
    let (values, rest) ← values? cs
    return (.texts name values, ← close? rest)
  else if name = ":lang" then
    let (values, rest) ← values? cs
    return (.language values, ← close? rest)
  else if name = ":dir" then
    match word? "ltr" cs with
    | some rest => return (.direction .leftToRight, ← close? rest)
    | none => return (.direction .rightToLeft, ← close? (← word? "rtl" cs))
  else if name = ":nth-child" || name = ":nth-last-child" then
    let (formula, rest) ← formula? cs
    match close? rest with
    | some rest => return (.nthChild name formula false, rest)
    | none => return (.nthChild name formula true, ← ofList? rest)
  else if name = ":nth-of-type" || name = ":nth-last-of-type" then
    let (formula, rest) ← formula? cs
    return (.nthOfType name formula, ← close? rest)
  else none

/-- The name of a pseudo-class without backslashes, in small letters. -/
def pseudoName (name : List Char) : Except Failure String := do
  return (← unescape false name).map Char.toLower

/-- A pseudo-class or pseudo-element; `cs` begins with the colon. -/
def pseudo? (cs : List Char) : Except Failure Found := do
  match cs with
  | ':' :: rest =>
    match name? rest with
    | some (name, rest) =>
      let name := ':' :: name
      let isCustom := name.take 3 = [':', '-', '-']
      match rest with
      | '(' :: inside =>
        let inside := skipBlanks inside
        match special? (← pseudoName name) inside with
        | some found => return some found
        | none =>
          if isCustom then return some (.custom name, rest)
          return some (.pseudoClass name true, inside)
      | _ =>
        if isCustom then return some (.custom name, rest)
        return some (.pseudoClass name false, rest)
    | none =>
      match rest with
      | ':' :: rest =>
        match name? rest with
        | some (_, '(' :: inside) => return some (.pseudoElement, skipBlanks inside)
        | some (_, rest) => return some (.pseudoElement, rest)
        | none => return none
      | _ => return none
  | _ => return none

/-- A name, or a star. -/
def nameOrStar? : List Char → Option Part
  | '*' :: rest => some (['*'], rest)
  | cs => name? cs

/-- A name behind the short name of a namespace, which may be empty or a star, and a bar. -/
def spaced? (last? : List Char → Option Part) (cs : List Char) :
    Option (List Char × List Char × List Char) :=
  let (space, rest) := (nameOrStar? cs).getD ([], cs)
  match rest with
  | '|' :: rest => (last? rest).map fun (name, rest) ↦ (space, name, rest)
  | _ => none

/-- The name of an element. -/
def tag? (cs : List Char) : Found :=
  match spaced? nameOrStar? cs with
  | some (space, name, rest) => some (.tag (some space) name, rest)
  | none => (nameOrStar? cs).map fun (name, rest) ↦ (.tag none name, rest)

/-- A mark of comparison, by its first character. -/
def comparison? : List Char → Option (Char × List Char)
  | '=' :: rest => some ('=', rest)
  | c :: '=' :: rest => if "!~^|*$".toList.contains c then some (c, rest) else none
  | _ => none

/-- The closing bracket of a test of an attribute, behind blanks. -/
def closeBracket? (cs : List Char) : Option (List Char) :=
  match skipBlanks cs with
  | ']' :: rest => some rest
  | _ => none

/-- The letter that says whether case counts, behind blanks: an `i` or an `s` or a letter that
differs from one of them only in case. -/
def caseLetter? (cs : List Char) : Option (Char × List Char) :=
  match skipBlanks cs with
  | c :: rest =>
    if Text.sameLetter c 'i' || Text.sameLetter c 's' then some (c.toLower, rest) else none
  | [] => none

/-- What stands behind the name in a test of an attribute. -/
def test? (cs : List Char) : Option (Option (Char × List Char × Option Char) × List Char) :=
  let compared := do
    let (operator, rest) ← comparison? (skipBlanks cs)
    let (value, rest) ← value? (skipBlanks rest)
    match (caseLetter? rest).bind fun (c, rest) ↦ (closeBracket? rest).map (c, ·) with
    | some (c, rest) => some (some (operator, value, some c), rest)
    | none => (closeBracket? rest).map (some (operator, value, none), ·)
  compared.orElse fun _ ↦ (closeBracket? cs).map (none, ·)

/-- A test of an attribute; `cs` begins behind the bracket. -/
def attribute? (cs : List Char) : Found :=
  let cs := skipBlanks cs
  let spaced := do
    let (space, name, rest) ← spaced? name? cs
    let (comparison, rest) ← test? rest
    return (Kind.attribute space name comparison, rest)
  spaced.orElse fun _ ↦ do
    let (name, rest) ← name? cs
    let (comparison, rest) ← test? rest
    return (.attribute [] name comparison, rest)

/-- Whether a character is a mark of combination. -/
def isMark (c : Char) : Bool := c == ',' || c == '+' || c == '>' || c == '~'

/-- A combinator: a mark behind blanks, or else a white space, perhaps behind comments. The blanks
behind it belong to it. -/
def combinator? (cs : List Char) : Found :=
  match skipBlanks cs with
  | c :: rest =>
    if isMark c then some (.combinator c, skipBlanks rest)
    else (space? (repeated comment? cs).2).map fun (_, rest) ↦ (.combinator ' ', skipBlanks rest)
  | [] => (space? (repeated comment? cs).2).map fun (_, rest) ↦ (.combinator ' ', skipBlanks rest)

/-- The token at the head of a text. -/
def next? (cs : List Char) : Except Failure Found := do
  if let some rest := close? cs then return some (.close, rest)
  if let some found ← pseudo? cs then return some found
  match cs with
  | '&' :: rest => return some (.nesting, rest)
  | '#' :: rest => return (name? rest).map fun (name, rest) ↦ (.id name, rest)
  | '.' :: rest => return (name? rest).map fun (name, rest) ↦ (.className name, rest)
  | '[' :: rest => return attribute? rest
  | '@' :: p :: rest =>
    if p = 'p' || p = 'P' then return (name? rest).map fun (_, rest) ↦ (.atRule, rest)
    return none
  | _ =>
    match tag? cs with
    | some found => return some found
    | none => return combinator? cs

/-- The fault of a text that no token begins. -/
def malformed (pattern : List Char) (place : Nat) (c : Char) : Failure :=
  let at_ := " at position " ++ toString place
  let message :=
    if c = '[' then "Malformed attribute selector" ++ at_
    else if c = '.' then "Malformed class selector" ++ at_
    else if c = '#' then "Malformed id selector" ++ at_
    else if c = ':' then "Malformed pseudo-class selector" ++ at_
    else "Invalid character " ++ Text.quoted c.toString ++ " position " ++ toString place
  grammarFailure pattern place message

/-- The tokens of a text, and the failure that ends them if there is one. The text has `length`
characters, and tokens begin before `stop`. Each token spends one of `fuel`. -/
def readAll (pattern : List Char) (stop : Nat) : Nat → List Char → List Token × Option Failure
  | 0, _ => ([], none)
  | fuel + 1, cs =>
    let start := pattern.length - cs.length
    if stop ≤ start then ([], none)
    else
      match next? cs with
      | .error f => ([], some f)
      | .ok (some (kind, rest)) =>
        let (tokens, f) := readAll pattern stop fuel rest
        (⟨kind, start, pattern.length - rest.length⟩ :: tokens, f)
      | .ok none =>
        match cs with
        | c :: _ => ([], some (malformed pattern start c))
        | [] => ([], none)

/-- The place behind which only blanks stand. They are looked for from the end, so the last comment
begins where a comment begins for the last time before its end. -/
def contentEnd (pattern : List Char) : Nat := (skipBlanks pattern.reverse).length

/-- The tokens of selector text, and the failure that ends them if there is one. -/
def ofText (pattern : List Char) : List Token × Option Failure :=
  readAll pattern (contentEnd pattern) (pattern.length + 1) (skipBlanks pattern)

end Token

end VectorLint.Selector
