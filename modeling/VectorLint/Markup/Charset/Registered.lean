import VectorLint.Markup.Charset
import VectorLint.Markup.Charset.Composition
import VectorLint.Markup.Charset.Shifting
import VectorLint.Markup.Charset.Wide

/-!
# Registered names

A tree is built from octets only in character sets that go by a registered name. Such a name is
written with its own punctuation; only the case of its letters is free. Some registered sets are
older than the sets of the same description and differ from them in a few octets.

Three kinds of names stand for sets in which markup that begins with ASCII cannot be read as it is
meant: those of units of two or four octets, those of a plane without ASCII, and those that only
differ from ASCII behind an escape, which markup cannot hold. The first two read nothing, the last
are ASCII.
-/

namespace VectorLint.Markup.Charset

/-- A registered set: its key, its names in small letters, and the octets in which it differs from
the set with that key. -/
structure Registration where
  key : String
  names : List String
  changes : List (Nat × Option Char)

/-- The registered sets. -/
def registrations : List Registration := [
  ⟨"latin1", ["cp819", "ibm819", "iso-8859-1", "iso-ir-100", "iso8859-1", "iso_8859-1", "l1",
    "latin1", "csisolatin1", "iso_8859-1:1987", "iso-latin-1", "iso latin 1"], []⟩,
  ⟨"iso8859_2", ["iso-8859-2", "iso_8859-2", "iso8859-2", "iso-ir-101", "latin2", "l2",
    "csisolatin2", "iso_8859-2:1987", "iso-latin-2", "iso latin 2"], []⟩,
  ⟨"iso8859_3", ["iso-8859-3", "iso_8859-3", "iso8859-3", "iso-ir-109", "latin3", "l3",
    "csisolatin3", "iso_8859-3:1988"], []⟩,
  ⟨"iso8859_4", ["iso-8859-4", "iso_8859-4", "iso8859-4", "iso-ir-110", "latin4", "l4",
    "csisolatin4", "iso_8859-4:1988"], []⟩,
  ⟨"iso8859_5", ["iso-8859-5", "iso_8859-5", "iso8859-5", "iso-ir-144", "cyrillic",
    "csisolatincyrillic", "iso_8859-5:1988"], []⟩,
  ⟨"iso8859_6", ["iso-8859-6", "iso_8859-6", "iso8859-6", "iso-ir-127", "ecma-114", "asmo-708",
    "arabic", "csisolatinarabic", "iso_8859-6:1987"], []⟩,
  ⟨"iso8859_7", ["iso-8859-7", "iso_8859-7", "iso8859-7", "iso-ir-126", "ecma-118", "elot_928",
    "greek8", "greek", "csisolatingreek", "iso_8859-7:1987", "iso_8859-7:2003"], []⟩,
  ⟨"iso8859_8", ["iso-8859-8", "iso_8859-8", "iso8859-8", "iso-ir-138", "hebrew",
    "csisolatinhebrew", "iso_8859-8:1988"], []⟩,
  ⟨"iso8859_9", ["iso-8859-9", "iso_8859-9", "iso8859-9", "iso-ir-148", "latin5", "l5",
    "csisolatin5", "iso_8859-9:1989"], []⟩,
  ⟨"iso8859_10", ["iso-8859-10", "iso_8859-10", "iso8859-10", "iso-ir-157", "latin6", "l6",
    "csisolatin6", "iso_8859-10:1992"], []⟩,
  ⟨"iso8859_11", ["iso-8859-11", "iso_8859-11", "iso8859-11"], []⟩,
  ⟨"iso8859_13", ["iso-8859-13", "iso_8859-13", "iso8859-13", "iso-ir-179", "latin7", "l7"], []⟩,
  ⟨"iso8859_14", ["iso-8859-14", "iso_8859-14", "iso8859-14", "iso-ir-199", "latin8", "l8",
    "iso-celtic", "iso_8859-14:1998"], []⟩,
  ⟨"iso8859_15", ["iso-8859-15", "iso_8859-15", "iso8859-15", "iso-ir-203", "latin-9",
    "iso_8859-15:1998"], []⟩,
  ⟨"iso8859_16", ["iso-8859-16", "iso_8859-16", "iso8859-16", "iso-ir-226", "latin10", "l10",
    "iso_8859-16:2001"], []⟩,
  ⟨"koi8_r", ["koi8-r", "cskoi8r"], []⟩,
  ⟨"koi8_u", ["koi8-u"], []⟩,
  ⟨"koi8_t", ["koi8-t"], []⟩,
  ⟨"cp1250", ["cp1250", "windows-1250", "ms-ee"], []⟩,
  ⟨"cp1251", ["cp1251", "windows-1251", "ms-cyrl"], []⟩,
  ⟨"cp1252", ["cp1252", "windows-1252", "ms-ansi"], []⟩,
  ⟨"cp1253", ["cp1253", "windows-1253", "ms-greek"], []⟩,
  ⟨"cp1254", ["cp1254", "windows-1254", "ms-turk"], []⟩,
  ⟨"cp1255", ["cp1255", "windows-1255", "ms-hebr"], []⟩,
  ⟨"cp1256", ["cp1256", "windows-1256", "ms-arab"], []⟩,
  ⟨"cp1257", ["cp1257", "windows-1257", "winbaltrim"], []⟩,
  ⟨"cp1258", ["cp1258", "windows-1258"], []⟩,
  ⟨"cp850", ["cp850", "ibm850", "cspc850multilingual"], []⟩,
  ⟨"cp862", ["cp862", "ibm862", "cspc862latinhebrew"], []⟩,
  ⟨"cp866", ["cp866", "ibm866", "csibm866"], []⟩,
  ⟨"cp874", ["cp874", "windows-874"], []⟩,
  ⟨"hp_roman8", ["hp-roman8", "roman8", "r8", "cshproman8"], []⟩,
  ⟨"cp154", ["pt154", "ptcp154", "cp154", "cyrillic-asian", "csptcp154"], []⟩,
  ⟨"rk1048", ["rk1048", "kz-1048", "strk1048-2002", "cskz1048"], []⟩,
  ⟨"mac_latin2", ["maccentraleurope"], []⟩,
  ⟨"mac_roman", ["macintosh", "mac", "macroman", "csmacintosh"],
    [(0xBD, some '\u2126'), (0xDB, some '¤'), (0xF0, none)]⟩,
  ⟨"mac_iceland", ["maciceland"], [(0xBD, some '\u2126'), (0xDB, some '¤'), (0xF0, none)]⟩,
  ⟨"mac_cyrillic", ["maccyrillic"], [(0xA2, some '¢'), (0xB6, some '∂'), (0xFF, some '¤')]⟩,
  ⟨"mac_cyrillic", ["macukraine"], [(0xFF, some '¤')]⟩,
  ⟨"mac_croatian", ["maccroatian"], [(0xBD, some '\u2126'), (0xD8, none), (0xDB, some '¤')]⟩,
  ⟨"mac_romanian", ["macromania"],
    [(0xAF, some 'Ş'), (0xBD, some '\u2126'), (0xBF, some 'ş'), (0xDB, some '¤'), (0xDE, some 'Ţ'),
      (0xDF, some 'ţ'), (0xF0, none)]⟩,
  ⟨"mac_greek", ["macgreek"], [(0x9C, some '\u00ad'), (0xAF, some '\u0387'), (0xFF, none)]⟩,
  ⟨"mac_turkish", ["macturkish"], [(0xBD, some '\u2126'), (0xF0, none), (0xF5, none)]⟩,
  ⟨"tis_620", ["tis-620", "tis620", "tis620-0", "tis620.2529-1", "tis620.2533-0", "tis620.2533-1",
    "iso-ir-166"], (List.range 33).map fun i ↦ (0x80 + i, none)⟩]

/-- The names and the last characters of the sets that have registered names only. -/
def ownTable : List (List String × String) := [
  (["koi8-ru"],
    "─│┌┐└┘├┤┬┴┼▀▄█▌▐░▒▓“■∙”—№™\u00a0»®«·¤═║╒ёє╔ії╗╘╙╚╛ґў╞╟╠╡ЁЄ╣ІЇ╦╧╨╩╪ҐЎ©юабцдефгхийклмн" ++
    "опярстужвьызшэщчъЮАБЦДЕФГХИЙКЛМНОПЯРСТУЖВЬЫЗШЭЩЧЪ"),
  (["armscii-8"],
    "\ufffdև։)(»«—.՝,-֊…՜՛՞ԱաԲբԳգԴդԵեԶզԷէԸըԹթԺժԻիԼլԽխԾծԿկՀհՁձՂղՃճՄմՅյՆնՇշՈոՉչՊպՋջՌռՍսՎվՏտ" ++
    "ՐրՑցՒւՓփՔքՕօՖֆ՚\ufffd"),
  (["georgian-academy"],
    "‚ƒ„…†‡ˆ‰Š‹Œ\u008d\u008e\u008f\u0090‘’“”•–—˜™š›œ\u009d\u009eŸ\u00a0¡¢£¤¥¦§¨©ª«¬\u00ad" ++
    "®¯°±²³´µ¶·¸¹º»¼½¾¿აბგდევზთიკლმნოპჟრსტუფქღყშჩცძწჭხჯჰჱჲჳჴჵჶçèéêëìíîïðñòóôõö÷øùúûüýþÿ"),
  (["georgian-ps"],
    "‚ƒ„…†‡ˆ‰Š‹Œ\u008d\u008e\u008f\u0090‘’“”•–—˜™š›œ\u009d\u009eŸ\u00a0¡¢£¤¥¦§¨©ª«¬\u00ad" ++
    "®¯°±²³´µ¶·¸¹º»¼½¾¿აბგდევზჱთიკლმნჲოპჟრსტჳუფქღყშჩცძწჭხჴჯჰჵæçèéêëìíîïðñòóôõö÷øùúûüýþÿ"),
  (["cp1133", "ibm-cp1133"],
    "\ufffdກຂຄງຈສຊຍດຕຖທນບປຜຝພຟມຢຣລວຫອຮ\ufffd\ufffd\ufffdຯະາຳ\u0eb4\u0eb5\u0eb6\u0eb7" ++
    "\u0eb8\u0eb9\u0ebc\u0eb1\u0ebbຽ\ufffd\ufffd\ufffdເແໂໃໄ\u0ec8\u0ec9\u0eca\u0ecb\u0ecc" ++
    "\u0ecdໆ\ufffdໜໝ₭\ufffd\ufffd\ufffd\ufffd\ufffd\ufffd\ufffd\ufffd\ufffd\ufffd\ufffd" ++
    "\ufffd\ufffd\ufffd\ufffd\ufffd໐໑໒໓໔໕໖໗໘໙\ufffd\ufffd¢¬¦\u00a0"),
  (["viscii", "viscii1.1-1", "csviscii"],
    "ẠẮẰẶẤẦẨẬẼẸẾỀỂỄỆỐỒỔỖỘỢỚỜỞỊỎỌỈỦŨỤỲÕắằặấầẩậẽẹếềểễệốồổỗỠƠộờởịỰỨỪỬơớƯÀÁÂÃẢĂẳẵÈÉÊẺÌÍĨỳĐứÒÓ" ++
    "ÔạỷừửÙÚỹỵÝỡưàáâãảăữẫèéêẻìíĩỉđựòóôõỏọụùúũủýợỮ"),
  (["tcvn", "tcvn-5712", "tcvn5712-1", "tcvn5712-1:1993"],
    "ÀẢÃÁẠẶẬÈẺẼÉẸỆÌỈĨÍỊÒỎÕÓỌỘỜỞỠỚỢÙỦŨ\u00a0ĂÂÊÔƠƯĐăâêôơưđẰ\u0300\u0309\u0303\u0301\u0323à" ++
    "ảãáạẲằẳẵắẴẮẦẨẪẤỀặầẩẫấậèỂẻẽéẹềểễếệìỉỄẾỒĩíịòỔỏõóọồổỗốộờởỡớợùỖủũúụừửữứựỳỷỹýỵỐ")]

/-- The registered names of ASCII, and those of the sets that differ from it behind an escape. -/
def registeredAscii : List String :=
  ["us-ascii", "ascii", "iso646-us", "iso_646.irv:1991", "iso-ir-6", "ansi_x3.4-1968",
    "ansi_x3.4-1986", "cp367", "ibm367", "us", "csascii", "iso-2022-jp", "csiso2022jp",
    "iso-2022-jp-1", "iso-2022-jp-2", "csiso2022jp2", "iso-2022-jp-ms", "cp50221", "iso-2022-cn",
    "csiso2022cn", "iso-2022-cn-ext", "iso-2022-kr", "csiso2022kr"]

/-- The registered names of units of two or four octets, and those of planes without ASCII. -/
def registeredForeign : List String :=
  ["utf-16", "utf16", "utf-16be", "utf-16le", "utf-32", "utf-32be", "utf-32le", "ucs-2", "ucs2",
    "iso-10646-ucs-2", "csunicode", "ucs-2be", "unicodebig", "unicode-1-1", "csunicode11",
    "ucs-2le",
    "unicodelittle", "ucs-4", "ucs4", "iso-10646-ucs-4", "csucs4", "ucs-4be", "ucs-4le",
    "ucs-2-internal", "ucs-2-swapped", "ucs-4-internal", "ucs-4-swapped", "wchar_t", "jis_x0208",
    "jis_x0208-1983", "jis_x0208-1990", "jis0208", "x0208", "iso-ir-87", "jis_c6226-1983",
    "csiso87jisx0208", "jis_x0212", "jis_x0212.1990-0", "jis_x0212-1990", "x0212", "iso-ir-159",
    "csiso159jisx02121990", "gb_2312-80", "iso-ir-58", "chinese", "csiso58gb231280",
    "cn-gb-isoir165", "iso-ir-165", "ksc_5601", "ks_c_5601-1987", "ks_c_5601-1989", "iso-ir-149",
    "korean", "csksc56011987"]

/-- The registered wide sets. -/
def registeredWide : List (List String × Wide) := [
  (["euc-cn", "euccn", "gb2312", "cn-gb", "csgb2312"], .eucCn),
  (["gbk"], .gbk),
  (["cp936", "ms936", "windows-936"], .cp936),
  (["gb18030"], .gb18030),
  (["big5", "big-5", "big-five", "bigfive", "cn-big5", "csbig5"], .big5),
  (["cp950"], .cp950),
  (["big5-hkscs", "big5hkscs", "big5-hkscs:1999", "big5-hkscs:2001", "big5-hkscs:2004",
    "big5-hkscs:2008"], .big5Hkscs),
  (["euc-tw", "euctw", "cseuctw"], .eucTw),
  (["iso646-jp", "jis_c6220-1969-ro", "iso-ir-14", "jp", "csiso14jisc6220ro"],
    ⟨Wide.yenAndOverline, fun _ _ ↦ ⟨none, 1⟩⟩),
  (["iso646-cn", "gb_1988-80", "iso-ir-57", "cn", "csiso57gb1988"],
    ⟨[('$', '¥'), ('~', '‾')], fun _ _ ↦ ⟨none, 1⟩⟩),
  (["jis_x0201", "jisx0201-1976", "x0201", "cshalfwidthkatakana"], .jisX0201),
  (["shift_jis", "shift-jis", "sjis", "ms_kanji", "csshiftjis"], .shiftJis),
  (["cp932"], .cp932),
  (["euc-jp", "eucjp", "extended_unix_code_packed_format_for_japanese", "cseucpkdfmtjapanese"],
    .eucJp),
  (["euc-kr", "euckr", "cseuckr"], .eucKr),
  (["cp949", "uhc"], .uhc),
  (["johab", "cp1361"], .johab)]

/-- A set with the characters of some octets changed. -/
def change (c : Charset) (changes : List (Nat × Option Char)) : Charset :=
  { c with
    upper := c.upper.zipIdx.map fun (ch, i) ↦ (changes.lookup (128 + i)).getD ch }

/-- The narrow set that is registered under a name in small letters. -/
def narrow? (name : String) : Option Charset :=
  match registrations.find? (·.names.contains name) with
  | some r =>
    match known r.key with
    | .usable c => some (c.change r.changes)
    | _ => none
  | none =>
    if registeredAscii.contains name then some ascii
    else (ownTable.find? (·.1.contains name)).map fun (_, last) ↦ ofLast last

/-- The reading of octets in a narrow set. Marks join the letters before them. -/
def read (c : Charset) (bs : List UInt8) : Reading :=
  let reading := Reading.ofHeads (fun b _ ↦ ⟨c.char? b, 1⟩) bs
  { reading with chars := compose reading.chars }

/-- The set that the code page of Windows for the west of Europe is. -/
def western : Charset := (narrow? "windows-1252").getD latin1

/-- How octets are read in the set that is registered under a name. -/
def reader? (name : String) : Option (List UInt8 → Reading) :=
  let name := name.map Char.toLower
  if registeredForeign.contains name then some fun _ ↦ .fault 0
  else if ["hz", "hz-gb-2312"].contains name then some (readTildes false)
  else if ["utf-7", "unicode-1-1-utf-7", "csunicode11utf7"].contains name then
    some (readUnits .direct)
  else
    match registeredWide.find? (·.1.contains name) with
    | some (_, w) => some w.read
    | none => (narrow? name).map read

end VectorLint.Markup.Charset
