/-!
# Marks that join their base

Some character sets have marks of their own, which stand behind the letter that they belong to.
Where a letter and a mark have one character between them, a reader that composes gives that
character. Only the marks of the Vietnamese and the Hebrew sets occur, and only the letters of these
sets bear them.
-/

namespace VectorLint.Markup.Charset

/-- For each mark the letters that join it, each with the character that the two form. -/
def compositions : List (Char × String) := [
  ('\u0300',
    "AÀEÈIÌNǸOÒUÙWẀYỲaàeèiìnǹoòuùwẁyỳ¨῭ÂẦÊỀÔỒÜǛâầêềôồüǜĂẰăằƠỜơờƯỪưừ"),
  ('\u0301',
    "AÁCĆEÉGǴIÍKḰLĹMḾNŃOÓPṔRŔSŚUÚWẂYÝZŹaácćeégǵiíkḱlĺmḿnńoópṕrŕsśuúwẃyýzź¨΅ÂẤÅǺÆǼÇḈÊẾÏḮÔỐØǾÜǗ" ++
    "âấåǻæǽçḉêếïḯôốøǿüǘĂẮăắƠỚơớƯỨưứ"),
  ('\u0303',
    "AÃEẼIĨNÑOÕUŨVṼYỸaãeẽiĩnñoõuũvṽyỹÂẪÊỄÔỖâẫêễôỗĂẴăẵƠỠơỡƯỮưữ"),
  ('\u0309',
    "AẢEẺIỈOỎUỦYỶaảeẻiỉoỏuủyỷÂẨÊỂÔỔâẩêểôổĂẲăẳƠỞơởƯỬưử"),
  ('\u0323',
    "AẠBḄDḌEẸHḤIỊKḲLḶMṂNṆOỌRṚSṢTṬUỤVṾWẈYỴZẒaạbḅdḍeẹhḥiịkḳlḷmṃnṇoọrṛsṣtṭuụvṿwẉyỵzẓÂẬÊỆÔỘâậêệôộ" ++
    "ĂẶăặƠỢơợƯỰưự"),
  ('\u05b4', "\u05d9\ufb1d"),
  ('\u05b7', "\u05d0\ufb2e\u05f2\ufb1f"),
  ('\u05b8', "\u05d0\ufb2f"),
  ('\u05b9', "\u05d5\ufb4b"),
  ('\u05bc',
    "\u05d0\ufb30\u05d1\ufb31\u05d2\ufb32\u05d3\ufb33\u05d4\ufb34\u05d5\ufb35\u05d6\ufb36" ++
    "\u05d8\ufb38\u05d9\ufb39\u05da\ufb3a\u05db\ufb3b\u05dc\ufb3c\u05de\ufb3e\u05e0\ufb40" ++
    "\u05e1\ufb41\u05e3\ufb43\u05e4\ufb44\u05e6\ufb46\u05e7\ufb47\u05e8\ufb48\u05e9\ufb49" ++
    "\u05ea\ufb4a\ufb2a\ufb2c\ufb2b\ufb2d"),
  ('\u05bf', "\u05d1\ufb4c\u05db\ufb4d\u05e4\ufb4e"),
  ('\u05c1', "\u05e9\ufb2a\ufb49\ufb2c"),
  ('\u05c2', "\u05e9\ufb2b\ufb49\ufb2d")]

/-- The partner of a character in a text of pairs. -/
def partner? (base : Char) : List Char → Option Char
  | b :: c :: pairs => if b = base then some c else partner? base pairs
  | _ => none

/-- The character that a letter and a mark form. -/
def joined? (base mark : Char) : Option Char :=
  (compositions.lookup mark).bind fun pairs ↦ partner? base pairs.toList

/-- A text with each mark joined to the letter before it. What a letter and a mark form may be
joined by another mark. -/
def compose : List Char → List Char
  | a :: b :: cs =>
    match joined? a b with
    | some c => compose (c :: cs)
    | none => a :: compose (b :: cs)
  | cs => cs
termination_by cs => cs.length

end VectorLint.Markup.Charset
