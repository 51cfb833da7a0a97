import VectorLint.Markup.Charset.Registered
import VectorLint.Markup.Encoding
import VectorLint.Markup.Reader

/-!
# Reading for the tree

Markup that passes the check is read once more, and the tree is built from what this reading finds.
It has its own idea of the encoding of octets: that of a byte order mark, or else the registered
character set that the first line names, or else UTF-8, where `U+FFFD` stands for octets that are no
character. It does not refuse a document for a fault, but reads as far as it can.

Octets are read in blocks. A block with an octet that has no character in its character set is not
read, nor is any behind it. UTF-8 has a second chance: if an octet that had to be replaced stands in
a name, where no such character may stand, the octets are read as Windows-1252 instead.
-/

namespace VectorLint.Markup

namespace Encoding

/-- Whether a declaration is closed somewhere in a line. -/
def hasClose : List Char → Bool
  | '?' :: '>' :: _ => true
  | _ :: cs => hasClose cs
  | [] => false

/-- The lazily matched value of `encoding="…"` at the head of a line, if the line closes the
declaration behind it. -/
def declaredAt? (line : List Char) : Option (List Char) :=
  let key := "encoding=".toList
  let isQuote (c : Char) : Bool := c == '"' || c == '\''
  if (line.take key.length).map Char.toLower = key then
    match line.drop key.length with
    | q :: rest =>
      let value := rest.takeWhile (!isQuote ·)
      let behind := rest.drop (value.length + 1)
      if isQuote q && value.length < rest.length && hasClose behind then some value
      else none
    | [] => none
  else none

/-- The last encoding named in a line that begins a declaration. -/
def lastDeclared? : List Char → Option (List Char)
  | [] => none
  | c :: cs =>
    match lastDeclared? cs with
    | some name => some name
    | none => declaredAt? (c :: cs)

/-- How octets are read in the registered character set that their first line names. Only ASCII
counts, and only the first 1024 octets. -/
def named? (bs : List UInt8) : Option (List UInt8 → Charset.Reading) :=
  let cs := (bs.take 1024).map fun b ↦ if b < 128 then Char.ofNat b.toNat else '\ufffd'
  let cs := cs.dropWhile fun c ↦ c == ' ' || (9 ≤ c.toNat && c.toNat ≤ 13)
  match cs.takeWhile (· != '\n') with
  | '<' :: '?' :: line =>
    (lastDeclared? line).bind fun name ↦ Charset.reader? (String.ofList name)
  | _ => none

/-- The characters of octets, with `U+FFFD` for each octet that belongs to no character. Each fault
uses up one of `fuel`. -/
def replaceFaults (fuel : Nat) (bs : List UInt8) : List Char :=
  match fuel with
  | 0 => []
  | fuel + 1 =>
    match Text.Utf8.decode bs with
    | (cs, none) => cs
    | (cs, some f) => cs ++ '\ufffd' :: replaceFaults fuel (bs.drop (f.offset + 1))

/-- The number of octets in a block. -/
def blockLength : Nat := 512

/-- The octets of the blocks before the one with the octet at `offset`. -/
def wholeBlocks (offset : Nat) (bs : List UInt8) : List UInt8 :=
  bs.take (offset / blockLength * blockLength)

/-- The characters of octets in a character set, in the blocks that can be read. -/
def salvageCharset (read : List UInt8 → Charset.Reading) (bs : List UInt8) : List Char :=
  let reading := read bs
  match reading.fault? with
  | none => reading.chars
  | some offset => (read (wholeBlocks offset bs)).chars

/-- How many octets a character has in UTF-16. -/
def width16 (c : Char) : Nat := if c.toNat < 0x10000 then 2 else 4

/-- The characters of octets in UTF-16, in the blocks that can be read. -/
def salvageUtf16 (isBigEndian : Bool) (bs : List UInt8) : List Char :=
  let text := decodeUtf16 true isBigEndian bs
  if text.ending = .complete then text.chars
  else
    let readable := (text.chars.map width16).foldr (· + ·) 0
    (decodeUtf16 true isBigEndian (wholeBlocks (readable + 1) bs)).chars

/-- The events of octets whose encoding is not named. -/
def salvageUnnamed (bs : List UInt8) : List Event :=
  let cs := replaceFaults (bs.length + 1) bs
  match readPart cs with
  | (events, some (.malformed _ offset)) =>
    if cs[offset]? = some '\ufffd' then
      (readPart (salvageCharset Charset.western.read bs)).1
    else events
  | (events, _) => events

end Encoding

/-- The events from which the tree of markup is built. -/
def Source.events : Source → List Event
  | .text s => (readPart s.toList).1
  | .octets bs =>
    match bs with
    | 0xFE :: 0xFF :: rest => (readPart (Encoding.salvageUtf16 true rest)).1
    | 0xFF :: 0xFE :: rest => (readPart (Encoding.salvageUtf16 false rest)).1
    | 0xEF :: 0xBB :: 0xBF :: _ => Encoding.salvageUnnamed bs
    | _ =>
      match Encoding.named? bs with
      | some read => (readPart (Encoding.salvageCharset read bs)).1
      | none => Encoding.salvageUnnamed bs

end VectorLint.Markup
