import VectorLint.Terminal.Action.Word
import VectorLint.Text.Alphanumeric
import VectorLint.Text.Blank

/-!
# Actions

The tag of an action names what to call, and behind the name the arguments may stand in parentheses.
Without a name the arguments stand alone. Arguments are literals: numbers, texts, octets, constants,
and tuples, sets and dictionaries of literals. A tag whose arguments are none cannot be closed.

Only whether arguments are literals is decided here, not what they denote. That needs two facts
about each of them: whether it is a number to which an imaginary one may be added, and whether it
may be a member of a set or a key of a dictionary.
-/

namespace VectorLint.Terminal.Action

/-! ## Literals -/

/-- What matters about a literal. -/
inductive Kind where
  /-- A number, and whether it has no sign and is no sum. -/
  | number (isReal isBare : Bool)
  /-- Anything else, and whether it may be a member or a key. -/
  | other (isMember : Bool)
  /-- The name of what makes the empty set: no literal unless empty parentheses follow. -/
  | setName
  deriving DecidableEq, Repr

/-- Whether something is a literal. -/
def Kind.isLiteral : Kind → Bool
  | setName => false
  | _ => true

/-- Whether a literal may be a member of a set or a key. -/
def Kind.isMember : Kind → Bool
  | number _ _ => true
  | other isMember => isMember
  | setName => false

/-- A mark at the head of words, and the words behind it. -/
def afterMark? (c : Char) : List Word → Option (List Word)
  | .mark d :: ws => if c = d then some ws else none
  | _ => none

/-- The empty set in place of its name, if empty parentheses follow, and the words behind them. -/
def called (found : Kind × List Word) : Kind × List Word :=
  match found with
  | (.setName, .mark '(' :: .mark ')' :: ws) => (.other false, ws)
  | found => found

mutual

/-- A literal without a sign, and the words behind it. -/
def atom? (fuel : Nat) (ws : List Word) : Option (Kind × List Word) :=
  match fuel with
  | 0 => none
  | fuel + 1 =>
    match ws with
    | .number isReal :: ws => some (.number isReal true, ws)
    | .constant :: ws => some (.other true, ws)
    | .text :: ws => some (.other true, ws.dropWhile (· = .text))
    | .octets :: ws => some (.other true, ws.dropWhile (· = .octets))
    | .setName :: ws => some (called (.setName, ws))
    | .mark '(' :: .mark ')' :: ws => some (.other true, ws)
    | .mark '(' :: ws => do
      let (kinds, isTuple, ws) ← row? fuel ws
      let ws ← afterMark? ')' ws
      match kinds, isTuple with
      | [kind], false => return called (kind, ws)
      | _, _ =>
        if kinds.all Kind.isLiteral then return (.other (kinds.all Kind.isMember), ws) else none
    | .mark '\x7b' :: .mark '\x7d' :: ws => some (.other false, ws)
    | .mark '\x7b' :: ws => do
      let (first, ws) ← literal? fuel ws
      match afterMark? ':' ws with
      | some ws => return (.other false, ← afterMark? '\x7d' (← pairsBehind? fuel first ws))
      | none =>
        let (kinds, _, ws) ← rowBehind? fuel first ws
        if kinds.all Kind.isMember then return (.other false, ← afterMark? '\x7d' ws) else none
    | _ => none

/-- A literal, and the words behind it. It may also be the name of what makes the empty set, in
parentheses. -/
def literal? (fuel : Nat) (ws : List Word) : Option (Kind × List Word) :=
  match fuel with
  | 0 => none
  | fuel + 1 => do
    let (kind, ws) ← match ws with
      | .sign _ :: ws =>
        match atom? fuel ws with
        | some (.number isReal true, ws) => some (Kind.number isReal false, ws)
        | _ => none
      | _ => atom? fuel ws
    match kind, ws with
    | .number true _, .sign _ :: ws =>
      match atom? fuel ws with
      | some (.number false true, ws) => some (Kind.number false false, ws)
      | _ => none
    | _, .sign _ :: _ => none
    | _, _ => some (kind, ws)

/-- Literals with commas between them, whether there is a comma, and the words behind them. -/
def row? (fuel : Nat) (ws : List Word) : Option (List Kind × Bool × List Word) :=
  match fuel with
  | 0 => none
  | fuel + 1 => do
    let (first, ws) ← literal? fuel ws
    rowBehind? fuel first ws

/-- The same for literals of which the first was read. -/
def rowBehind? (fuel : Nat) (first : Kind) (ws : List Word) :
    Option (List Kind × Bool × List Word) :=
  match fuel with
  | 0 => none
  | fuel + 1 =>
    match afterMark? ',' ws with
    | none => some ([first], false, ws)
    | some [] => some ([first], true, [])
    | some (.mark c :: ws) =>
      if c = ')' || c = '\x7d' then some ([first], true, .mark c :: ws)
      else (row? fuel (.mark c :: ws)).map fun (kinds, _, ws) ↦ (first :: kinds, true, ws)
    | some ws => (row? fuel ws).map fun (kinds, _, ws) ↦ (first :: kinds, true, ws)

/-- The words behind the pairs of a dictionary, whose first key and its colon were read. -/
def pairsBehind? (fuel : Nat) (key : Kind) (ws : List Word) : Option (List Word) :=
  match fuel with
  | 0 => none
  | fuel + 1 => do
    let (kind, ws) ← literal? fuel ws
    if !key.isMember || !kind.isLiteral then none
    else
      match afterMark? ',' ws with
      | none => some ws
      | some (.mark '\x7d' :: ws) => some (.mark '\x7d' :: ws)
      | some ws =>
        let (key, ws) ← literal? fuel ws
        pairsBehind? fuel key (← afterMark? ':' ws)

end

/-- Whether a text is a literal, or several with commas between them. A word leads through at most
five steps. -/
def isLiteral (cs : List Char) : Bool :=
  match words? cs with
  | none => false
  | some ws =>
    match row? (5 * ws.length + 5) ws with
    | some (kinds, _, []) => kinds.all Kind.isLiteral
    | _ => false

/-- Whether a character may stand in the name of what is called. -/
def isCalleeChar (c : Char) : Bool := Text.isAlphanumeric c || c = '_' || c = '.'

/-- Whether what stands behind the equals sign of an action's tag is a name with arguments, or
arguments alone. -/
def isCall (written : List Char) : Bool :=
  let cs := ((written.dropWhile Text.isBlank).reverse.dropWhile Text.isBlank).reverse
  let arguments := cs.dropWhile isCalleeChar
  let isEnclosed := arguments.head? = some '(' && arguments.getLast? = some ')'
    && !arguments.contains '\n'
  if arguments.isEmpty then true
  else if isEnclosed then isLiteral arguments
  else isLiteral cs

end VectorLint.Terminal.Action
