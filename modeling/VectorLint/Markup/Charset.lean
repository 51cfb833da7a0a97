import VectorLint.Markup.Charset.Table
import VectorLint.Markup.Fault

/-!
# Character sets

The declaration of a document may name a character set. The name is compared without regard to case
and to what separates its parts. Of the sets that are known, only those can be used that give each
octet a character of its own and agree with ASCII.
-/

namespace VectorLint.Markup

/-- A character set: the characters of the octets from 128 on, and the character of ASCII that it
lacks, if there is one. -/
structure Charset where
  upper : List (Option Char)
  lacking : Option Char
  deriving DecidableEq, Repr

/-- What is known about an encoding by its name. -/
inductive Charset.Known where
  | usable (c : Charset)
  /-- A character may take more than one octet. -/
  | wide
  /-- The set does not agree with ASCII. -/
  | foreign
  | notTextual
  /-- It reads nothing. -/
  | refusing (r : Refusal)
  | unknown
  deriving DecidableEq, Repr

namespace Charset

/-- The set with no characters beyond ASCII. -/
def ascii : Charset := ⟨List.replicate 128 none, none⟩

/-- The set whose octets are the first 256 code points. -/
def latin1 : Charset := ⟨(List.range 128).map fun i ↦ some (Char.ofNat (128 + i)), none⟩

/-- The set whose last octets are the given characters. -/
def ofLast (last : String) : Charset :=
  let cs := last.toList.map fun c ↦ if c = '\ufffd' then none else some c
  ⟨(latin1.upper.take (128 - cs.length)) ++ cs, none⟩

/-- The parts of a name: the longest runs of letters, digits and full stops. -/
def parts (cs : List Char) : List (List Char) :=
  let close (part : List Char) (found : List (List Char)) :=
    if part.isEmpty then found else part :: found
  let (part, found) := cs.foldr
    (fun c (part, found) ↦
      if c.isAlphanum || c == '.' then (c :: part, found) else ([], close part found))
    ([], [])
  close part found

/-- A name with small letters, and with one underscore for whatever separates its parts. -/
def key (name : String) : String :=
  String.ofList (['_'].intercalate (parts (name.toList.map Char.toLower)))

/-- What is known about the encoding with a key. -/
def known (key : String) : Known :=
  if asciiNames.contains key then .usable ascii
  else if latin1Names.contains key then .usable latin1
  else if tildelessNames.contains key then .usable { ascii with lacking := some '~' }
  else if wideNames.contains key then .wide
  else if foreignNames.contains key then .foreign
  else if notTextualNames.contains key then .notTextual
  else if key = "undefined" then .refusing .undefined
  else if key = "idna" then .refusing .strict
  else if key = "punycode" then .refusing .ascii
  else
    match table.find? (·.1.contains key) with
    | some (_, last) => .usable (ofLast last)
    | none => .unknown

/-- What is known about the encoding with a name. In most names a full stop may also separate
parts. -/
def ofName (name : String) : Known :=
  match known (key name) with
  | .unknown =>
    let undotted := String.ofList ((key name).toList.map fun c ↦ if c == '.' then '_' else c)
    if undottedNames.contains undotted then .unknown else known undotted
  | found => found

/-- The character of an octet. -/
def char? (c : Charset) (b : UInt8) : Option Char :=
  if b < 128 then some (Char.ofNat b.toNat) |>.filter (some · != c.lacking)
  else (c.upper[b.toNat - 128]?).join

end Charset

end VectorLint.Markup
