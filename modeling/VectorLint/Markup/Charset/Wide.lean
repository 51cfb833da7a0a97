import VectorLint.Markup.Charset.Plane.Japanese
import VectorLint.Markup.Charset.Plane.Korean
import VectorLint.Markup.Charset.Plane.Simplified
import VectorLint.Markup.Charset.Plane.Traditional
import VectorLint.Markup.Charset.Reading

/-!
# Wide character sets

The sets of East Asia take one octet for a character of ASCII and two or more for most others. Each
of them joins planes in its own way. What no plane has may lie in an area for private use, whose
characters are numbered row after row.
-/

namespace VectorLint.Markup.Charset

/-- A range of octets, or several of them, with both ends. -/
abbrev Ranges := List (Nat × Nat)

/-- The octets of the usual rows. -/
def upperRange : Ranges := [(0xA1, 0xFE)]

/-- An area for private use: its first and its last row, the second octets of its characters, and
its first character. -/
structure Area where
  first : Nat
  last : Nat
  seconds : Ranges
  start : Nat

/-- The character of two octets in an area. -/
def Area.char? (area : Area) (a b : Nat) : Option Char := do
  let i ← place? b area.seconds
  let rowLength := (area.seconds.map fun (low, high) ↦ high + 1 - low).foldr (· + ·) 0
  if area.first ≤ a && a ≤ area.last then
    some (Char.ofNat (area.start + (a - area.first) * rowLength + i))
  else none

/-- The character of two octets in the first of some areas that has one. -/
def privateChar? (areas : List Area) (a b : Nat) : Option Char :=
  areas.findSome? (·.char? a b)

/-- A wide set: the characters in place of those of ASCII that it lacks, and what octets begin with
if the first one is not of ASCII. -/
structure Wide where
  ascii : List (Char × Char)
  head : Nat → List UInt8 → Head

namespace Wide

/-- What octets begin with. -/
def headOf (w : Wide) (b : UInt8) (bs : List UInt8) : Head :=
  if b < 128 then
    let c := Char.ofNat b.toNat
    ⟨some ((w.ascii.lookup c).getD c), 1⟩
  else w.head b.toNat bs

/-- The reading of octets in a wide set. -/
def read (w : Wide) : List UInt8 → Reading := Reading.ofHeads w.headOf

/-- The head of octets that begin with a character of two octets. -/
def pair (leads : Ranges) (char? : Nat → Nat → Option Char) (a : Nat) (bs : List UInt8) : Head :=
  if (place? a leads).isSome then ⟨bs.head?.bind fun b ↦ char? a b.toNat, 2⟩ else ⟨none, 1⟩

/-! ## Simplified Chinese -/

/-- The set that joins ASCII to GB 2312. -/
def eucCn : Wide := ⟨[], pair upperRange gb2312.char?⟩

/-- What GBK changes in the rows of GB 2312, and adds to them. -/
def gbkRuns : List (Nat × String) := [
  (0xA1A4, "·"), (0xA1AA, "—"), (0xA2A1, "ⅰⅱⅲⅳⅴⅵⅶⅷⅸⅹ"), (0xA6E0, "︵︶︹︺︿﹀︽︾﹁﹂﹃﹄..︻︼︷︸︱.︳︴"),
  (0xA8BB, "ɑ.ńň.ɡ")]

/-- The character of two octets in GBK. -/
def gbkChar? (a b : Nat) : Option Char :=
  runChar? gbkRuns a b <|> charOf? [gb2312, gbkFirst, gbkSigns, gbkLast] a b

/-- GBK, which fills the rows around GB 2312. -/
def gbk : Wide := ⟨[], pair [(0x81, 0xFE)] gbkChar?⟩

/-- The areas for private use of GBK. -/
def gbkAreas : List Area :=
  [⟨0xAA, 0xAF, upperRange, 0xE000⟩, ⟨0xF8, 0xFE, upperRange, 0xE234⟩,
    ⟨0xA1, 0xA7, [(0x40, 0x7E), (0x80, 0xA0)], 0xE4C6⟩]

/-- The code page of Windows, which has the euro sign and the areas for private use. -/
def cp936 : Wide :=
  let two := pair [(0x81, 0xFE)] fun a b ↦ gbkChar? a b <|> privateChar? gbkAreas a b
  ⟨[], fun a bs ↦ if a = 0x80 then ⟨some '€', 1⟩ else two a bs⟩

/-- What GB 18030 adds to GBK. -/
def gb18030Runs : List (Nat × String) := [
  (0xA2E3, "€"), (0xA8BC, "ḿ..ǹ"), (0xA989, "〾⿰⿱⿲⿳⿴⿵⿶⿷⿸⿹⿺⿻"),
  (0xFE50, "⺁...⺄㑳㑇⺈⺋.㖞㘚㘎⺌⺗㥮㤘.㧏㧟㩳㧐..㭎㱮㳠⺧..⺪䁖䅟⺮䌷⺳⺶⺷.䎱䎬"),
  (0xFE79, "⺻䏝䓖䙡䙌..䜣䜩䝼䞍⻊䥇䥺䥽䦂䦃䦅䦆䦟䦛䦷䦶..䲣䲟䲠䲡䱷䲢䴓䴔䴕䴖䴗䴘䴙䶮")]

/-- The character of four octets in GB 18030 beyond the basic plane. The second and the fourth of
them are digits. -/
def fourChar? (a b c d : Nat) : Option Char :=
  if 0x90 ≤ a && a ≤ 0xE3 && 0x81 ≤ c && c ≤ 0xFE && 0x30 ≤ d && d ≤ 0x39 then
    let n := (((a - 0x90) * 10 + (b - 0x30)) * 126 + (c - 0x81)) * 10 + (d - 0x30)
    if n < 0x100000 then some (Char.ofNat (0x10000 + n)) else none
  else none

/-- GB 18030. A second octet that is a digit announces four octets. -/
def gb18030 : Wide :=
  let two := pair [(0x81, 0xFE)] fun a b ↦
    gbkChar? a b <|> runChar? gb18030Runs a b <|> privateChar? gbkAreas a b
  ⟨[], fun a bs ↦
    match bs with
    | b :: bs =>
      if 0x30 ≤ b && b ≤ 0x39 then
        match bs with
        | c :: d :: _ => ⟨fourChar? a b.toNat c.toNat d.toNat, 4⟩
        | _ => ⟨none, 4⟩
      else two a (b :: bs)
    | [] => two a []⟩

/-! ## Traditional Chinese -/

/-- The second octets of Big Five. -/
def bigFiveSeconds : Ranges := [(0x40, 0x7E), (0xA1, 0xFE)]

/-- Big Five. -/
def big5 : Wide := ⟨[], pair [(0x81, 0xFE)] bigFive.char?⟩

/-- What the code page of Windows changes in Big Five, and adds to it. -/
def cp950Runs : List (Nat × String) := [
  (0xA145, "‧"), (0xA14E, "﹑"), (0xA15A, "╴"), (0xA1C2, "¯￣.ˍ"), (0xA1E3, "～"), (0xA1F2, "⊕⊙"),
  (0xA1FE, "／"), (0xA240, "＼∕﹨.￥.￠￡"), (0xA2CC, "十.卅"), (0xA3E1, "€"),
  (0xF9D6, "碁銹裏墻恒粧嫺╔╦╗╠╬╣╚╩╝╒╤╕╞╪╡╘╧╛╓╥╖╟╫╢╙╨╜║═╭╮╰╯▓")]

/-- The areas for private use of that code page. -/
def cp950Areas : List Area :=
  [⟨0xFA, 0xFE, bigFiveSeconds, 0xE000⟩, ⟨0x8E, 0xA0, bigFiveSeconds, 0xE311⟩,
    ⟨0x81, 0x8D, bigFiveSeconds, 0xEEB8⟩]

/-- The rows between the two levels of Big Five, which the code page leaves to private use. -/
def cp950Middle : Area := ⟨0xC6, 0xC8, bigFiveSeconds, 0xF672⟩

/-- The code page of Windows. -/
def cp950 : Wide :=
  ⟨[], pair [(0x81, 0xFE)] fun a b ↦
    if 0xC6A1 ≤ 256 * a + b && a ≤ 0xC8 then cp950Middle.char? a b
    else runChar? cp950Runs a b <|> bigFive.char? a b <|> privateChar? cp950Areas a b⟩

/-- The set of Hong Kong. -/
def big5Hkscs : Wide :=
  ⟨[], pair [(0x81, 0xFE)] fun a b ↦
    if 0xC6A1 ≤ 256 * a + b && a ≤ 0xC8 then hongKongMiddle.char? a b
    else charOf? [bigFive, hongKongFirst, hongKongLast] a b⟩

/-- The set that joins ASCII to CNS 11643. Four octets name the number of the plane. -/
def eucTw : Wide :=
  ⟨[], fun a bs ↦
    match a, bs with
    | 0x8E, 0xA1 :: b :: c :: _ => ⟨cnsFirst.char? b.toNat c.toNat, 4⟩
    | 0x8E, _ => ⟨none, 4⟩
    | _, _ => pair upperRange cnsFirst.char? a bs⟩

/-! ## Japanese -/

/-- The character of an octet in the half of a set that has the narrow syllables. -/
def narrowSyllable? (a : Nat) : Option Char :=
  if 0xA1 ≤ a && a ≤ 0xDF then some (Char.ofNat (0xFF61 + (a - 0xA1))) else none

/-- What the national form of ASCII has in place of two of its characters. -/
def yenAndOverline : List (Char × Char) := [('\\', '¥'), ('~', '‾')]

/-- The set of narrow syllables. -/
def jisX0201 : Wide := ⟨yenAndOverline, fun a _ ↦ ⟨narrowSyllable? a, 1⟩⟩

/-- The second octets of a shifted row, which is as long as two rows of a plane. -/
def shiftedSeconds : Ranges := [(0x40, 0x7E), (0x80, 0xFC)]

/-- The character of two octets in the shifted rows of JIS X 0208. -/
def shiftedChar? (a b : Nat) : Option Char := do
  let i ← place? b shiftedSeconds
  let row := 2 * (if a < 0xE0 then a - 0x81 else a - 0xC1) + i / 94
  jis208.char? (0xA1 + row) (0xA1 + i % 94)

/-- The rows for private use between the shifted ones. -/
def shiftedArea : Area := ⟨0xF0, 0xF9, shiftedSeconds, 0xE000⟩

/-- A head of shifted rows: narrow syllables take one octet, all others two. -/
def shiftedHead (leads : Ranges) (char? : Nat → Nat → Option Char) (a : Nat) (bs : List UInt8) :
    Head :=
  match narrowSyllable? a with
  | some c => ⟨some c, 1⟩
  | none => pair leads (fun a b ↦ char? a b <|> shiftedArea.char? a b) a bs

/-- The set of shifted rows. -/
def shiftJis : Wide :=
  ⟨yenAndOverline, shiftedHead [(0x81, 0x9F), (0xE0, 0xEA), (0xF0, 0xF9)] shiftedChar?⟩

/-- What the code page of Windows changes in the shifted rows. -/
def cp932Runs : List (Nat × String) :=
  [(0x8160, "～∥"), (0x817C, "－"), (0x8191, "￠￡"), (0x81CA, "￢")]

/-- The code page of Windows. -/
def cp932 : Wide :=
  ⟨[], shiftedHead [(0x81, 0x9F), (0xE0, 0xFC)] fun a b ↦
    runChar? cp932Runs a b <|> charOf? [windowsSigns, windowsFirst, windowsLast] a b <|>
      (if a ≤ 0xEA then shiftedChar? a b else none)⟩

/-- The set that joins ASCII to the planes of the standards. One octet announces a narrow syllable,
another one the second plane. -/
def eucJp : Wide :=
  ⟨[], fun a bs ↦
    match a, bs with
    | 0x8E, b :: _ => ⟨narrowSyllable? b.toNat, 2⟩
    | 0x8F, b :: c :: _ =>
      if (place? b.toNat upperRange).isSome then
        let area : Area := ⟨0xF5, 0xFE, upperRange, 0xE3AC⟩
        ⟨jis212.char? b.toNat c.toNat <|> area.char? b.toNat c.toNat, 3⟩
      else ⟨none, 2⟩
    | _, _ =>
      let area : Area := ⟨0xF5, 0xFE, upperRange, 0xE000⟩
      pair upperRange (fun a b ↦ jis208.char? a b <|> area.char? a b) a bs⟩

/-! ## Korean -/

/-- The set that joins ASCII to KS X 1001. -/
def eucKr : Wide := ⟨[], pair upperRange ksx1001.char?⟩

/-- The areas for private use of the unified code: two rows of the standard. -/
def unifiedAreas : List Area :=
  [⟨0xC9, 0xC9, upperRange, 0xE000⟩, ⟨0xFE, 0xFE, upperRange, 0xE05E⟩]

/-- The unified code, which has all syllables. -/
def uhc : Wide :=
  ⟨[], pair [(0x81, 0xFE)] fun a b ↦
    charOf? [ksx1001, unifiedFirst, unifiedLast] a b <|> privateChar? unifiedAreas a b⟩

/-- The letters with which a syllable may begin. -/
def initials : String := "ㄱㄲㄴㄷㄸㄹㅁㅂㅃㅅㅆㅇㅈㅉㅊㅋㅌㅍㅎ"

/-- The letters with which a syllable may end, but not begin, at the numbers of the ends. -/
def finals : String := "...ㄳ.ㄵㄶ..ㄺㄻㄼㄽㄾㄿㅀ..ㅄ"

/-- The vowels in the middle of a syllable, by their numbers; the numbers between their groups are
free. -/
def vowels : Ranges := [(3, 7), (10, 15), (18, 23), (26, 29)]

/-- The character of a beginning, a vowel and an end, each with its number. A part that is not there
has a number too: 1, 2 and 1. -/
def composed? (i m f : Nat) : Option Char :=
  let initial? := if 2 ≤ i && i ≤ 20 then some (i - 2) else none
  let vowel? := place? m vowels
  let final? := place? f [(1, 17), (19, 29)]
  match initial?, vowel?, final? with
  | some i, some m, some f => some (Char.ofNat (0xAC00 + (i * 21 + m) * 28 + f))
  | some i, none, some 0 => if m = 2 then filled? initials i else none
  | none, some m, some 0 => if i = 1 then some (Char.ofNat (0x314F + m)) else none
  | none, none, some f => if i = 1 && m = 2 then filled? finals f else none
  | _, _, _ => none

/-- The character of two octets whose bits compose a syllable. -/
def syllable? (a b : Nat) : Option Char :=
  let n := 256 * a + b - 0x8000
  if (place? b [(0x41, 0x7E), (0x81, 0xFE)]).isSome then
    composed? (n / 1024) (n / 32 % 32) (n % 32)
  else none

/-- The character of two octets in the rows behind the syllables, which are as long as two rows of
the standard. The letters in it are composed instead. -/
def johabSign? (a b : Nat) : Option Char := do
  let i ← place? b [(0x31, 0x7E), (0x91, 0xFE)]
  let row := (if a < 0xE0 then 2 * (a - 0xD9) else 2 * a - 0x197) + i / 94
  if a = 0xDA && 0xA1 ≤ b && b ≤ 0xD3 then none
  else if a = 0xDF then none
  else ksx1001.char? (0xA1 + row) (0xA1 + i % 94)

/-- The set that composes its syllables, with the sign of the won in place of a backslash. -/
def johab : Wide :=
  ⟨[('\\', '₩')], pair [(0x84, 0xD3), (0xD9, 0xDE), (0xE0, 0xF9)] fun a b ↦
    if a ≤ 0xD3 then syllable? a b else johabSign? a b⟩

end Wide

end VectorLint.Markup.Charset
