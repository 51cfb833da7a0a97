import VectorLint.Markup.Charset
import VectorLint.Markup.Declaration
import VectorLint.Markup.Reader
import VectorLint.Text.Utf8

/-!
# The encoding of a document

A document is given as a text or as octets. The check of octets looks at the first two, which tell
encodings with one octet for a character of the declaration from those with two, and then at the
declaration, which it holds to what it saw.
-/

namespace VectorLint.Markup

/-- Markup that is to be read. -/
inductive Source where
  | text (s : String)
  | octets (bs : List UInt8)

/-- An encoding. -/
inductive Encoding where
  | utf8
  | utf16 (isBigEndian : Bool)
  | latin
  | charset (c : Charset)
  deriving DecidableEq, Repr

/-- Characters, and how they end. -/
structure Characters where
  chars : List Char
  ending : Ending
  deriving DecidableEq, Repr

namespace Encoding

/-- How many octets a first octet announces in UTF-8. -/
def announced (b : UInt8) : Nat :=
  if b < 0xC0 then 1 else if b < 0xE0 then 2 else if b < 0xF0 then 3 else if b < 0xF5 then 4 else 1

/-- The characters of UTF-8. A character is cut if fewer octets are left than it announces. -/
def decodeUtf8 (bs : List UInt8) : Characters :=
  match Text.Utf8.decode bs with
  | (cs, none) => ⟨cs, .complete⟩
  | (cs, some f) =>
    let unread := bs.length - f.offset
    let size := announced f.octet
    ⟨cs, if unread < size then .cut unread else .malformed (1 < size) unread⟩

/-- The 16-bit number of two octets. -/
def unit (isBigEndian : Bool) (a b : UInt8) : Nat :=
  if isBigEndian then a.toNat * 256 + b.toNat else b.toNat * 256 + a.toNat

/-- The characters of UTF-16. Behind the first unit of a pair any unit is taken for the second,
unless the reading is strict. -/
def decodeUtf16 (isStrict isBigEndian : Bool) : List UInt8 → Characters
  | [] => ⟨[], .complete⟩
  | [_] => ⟨[], .half⟩
  | a :: b :: bs =>
    let n := unit isBigEndian a b
    if n < 0xD800 || 0xE000 ≤ n then
      let rest := decodeUtf16 isStrict isBigEndian bs
      { rest with chars := Char.ofNat n :: rest.chars }
    else if n < 0xDC00 then
      match bs with
      | c :: d :: bs =>
        let low := unit isBigEndian c d
        if isStrict && (low < 0xDC00 || 0xE000 ≤ low) then ⟨[], .malformed true (bs.length / 2 + 2)⟩
        else
          let rest := decodeUtf16 isStrict isBigEndian bs
          let high := (n - 0xD800) * 0x400
          { rest with chars := Char.ofNat (0x10000 + high + low % 0x400) :: rest.chars }
      | _ => ⟨[], .cut 1⟩
    else ⟨[], .malformed false (bs.length / 2 + 1)⟩

/-- The characters of a character set. -/
def decodeCharset (c : Charset) : List UInt8 → Characters
  | [] => ⟨[], .complete⟩
  | b :: bs =>
    match c.char? b with
    | some ch =>
      let rest := decodeCharset c bs
      { rest with chars := ch :: rest.chars }
    | none => ⟨[], .malformed false (bs.length + 1)⟩

/-- The characters of octets in an encoding. -/
def decode : Encoding → List UInt8 → Characters
  | .utf8 => decodeUtf8
  | .utf16 isBigEndian => decodeUtf16 false isBigEndian
  | .latin => decodeCharset .latin1
  | .charset c => decodeCharset c

/-- How an encoding writes characters. -/
def writing : Encoding → Writing
  | .utf8 => .octets
  | .utf16 _ => .pairs
  | .latin => .latin
  | .charset _ => .single

/-- The number of octets that the first `n` characters of a document take, the first of which may be
a byte order mark and all others of which are ASCII. -/
def lengthOf (e : Encoding) (isMarked : Bool) (n : Nat) : Nat :=
  match e with
  | .utf16 _ => 2 * n
  | .utf8 => if isMarked then n + 2 else n
  | .latin => n
  | .charset _ => n

/-- The encoding that the first octets show. -/
def ofOctets : List UInt8 → Encoding
  | 0xFE :: 0xFF :: _ => .utf16 true
  | 0xFF :: 0xFE :: _ => .utf16 false
  | 0 :: _ :: _ => .utf16 true
  | _ :: 0 :: _ => .utf16 false
  | _ => .utf8

/-- Whether the octets may be the beginning of a byte order mark or of UTF-16, and nothing more. -/
def isUndecided (bs : List UInt8) : Bool :=
  [[0], [0xFE], [0xFF], [0xEF], [0xEF, 0xBB]].contains bs

/-- The encoding named in a declaration, whose name stands at `offset`, for octets that show the
encoding `seen`. -/
def declared (seen : Encoding) (name : String) (offset : Nat) : Except Fault Encoding :=
  let wide := match seen with
    | .utf16 _ => true
    | _ => false
  let wrong := .error (.malformed .wrongEncoding offset)
  match name.map Char.toLower with
  | "utf-8" => if wide then wrong else .ok .utf8
  | "iso-8859-1" => if wide then wrong else .ok .latin
  | "us-ascii" => if wide then wrong else .ok (.charset .ascii)
  | "utf-16" => if wide then .ok seen else wrong
  | "utf-16be" => if seen = .utf16 true then .ok seen else wrong
  | "utf-16le" => if seen = .utf16 false then .ok seen else wrong
  | _ =>
    match Charset.ofName name with
    | .usable c => .ok (.charset c)
    | .wide => .error .wideCharset
    | .foreign => .error (.malformed .unusableEncoding offset)
    | .notTextual => .error (.notTextual name)
    | .refusing r => .error (.refused name r)
    | .unknown => .error (.unknownCharset name)

end Encoding

/-- The octets of markup. -/
def Source.toOctets : Source → List UInt8
  | .text s => Text.Utf8.encode s.toList
  | .octets bs => bs

/-- The characters of markup in the encoding that its first octets show. -/
def Source.seen (source : Source) : Decoded :=
  let bs := source.toOctets
  let e := Encoding.ofOctets bs
  let cs := if Encoding.isUndecided bs then ⟨[], .half⟩ else e.decode bs
  ⟨⟨0, []⟩, cs.chars, e.writing, cs.ending⟩

/-- Markup whose encoding changes behind its declaration, which is what it begins with. From there
on each octet of what was read counts as a character. -/
def Encoding.change (seen new : Encoding) (bs : List UInt8) (cs : List Char) : Decoded :=
  let front := cs.take (Declaration.size cs)
  let octets := seen.lengthOf (front.head? == some '\ufeff') front.length
  let rest := new.decode (bs.drop octets)
  ⟨⟨front.length, (bs.take octets).map fun b ↦ Char.ofNat b.toNat⟩, front ++ rest.chars,
    new.writing, rest.ending⟩

/-- The characters that the check reads. A text is read as its octets, whatever its declaration
says. -/
def Source.forCheck (source : Source) : Except Fault Decoded :=
  match source with
  | .text _ => .ok source.seen
  | .octets bs =>
    let text := source.seen
    match (Declaration.ofText? text.chars).bind (·.encoding) with
    | none => .ok text
    | some (name, offset) => do
      let seen := Encoding.ofOctets bs
      let new ← seen.declared name offset
      return if new = seen then text else seen.change new bs text.chars

end VectorLint.Markup
