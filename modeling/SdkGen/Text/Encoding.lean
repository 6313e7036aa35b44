import SdkGen.Text.Encoding.Escaped
import SdkGen.Text.Encoding.Label
import SdkGen.Text.Encoding.Shifted
import SdkGen.Text.Encoding.Switching

/-!
# Encodings

A text is stored as bytes in UTF-8. Its bytes may be read in other encodings, which are known under several
names: in a name, case means nothing, and whatever is neither a letter nor a digit nor a point is a gap.
-/

namespace SdkGen.Text

/-- How bytes stand for characters. -/
inductive Encoding where
  /-- One to four bytes for a character. -/
  | utf8
  /-- One to four bytes for a character, perhaps behind a mark. -/
  | markedUtf8
  /-- One byte below 128 for a character. -/
  | ascii
  /-- One byte for a character. -/
  | page (p : CodePage)
  /-- One or two words of two bytes for a character; the order may have to be told by a mark. -/
  | pairs (order : Option ByteOrder)
  /-- One word of four bytes for a character; the order may have to be told by a mark. -/
  | quads (order : Option ByteOrder)
  /-- Bytes below 128, of which some are shifted. -/
  | shifted
  /-- One, two or three bytes for a character of East Asia. -/
  | eastAsian (e : EastAsian)
  /-- One or two bytes below 128 for a character of East Asia. -/
  | switching (s : Switching)
  /-- One byte for a character, or several behind a backslash. -/
  | escaped (e : Escapes)
  | punycode
  | labels
  /-- No bytes for any character. -/
  | undefined

namespace Encoding

/-- A name with one underscore for each gap between its letters, digits and points, in lower case. -/
def plainNameFrom (gap : Bool) : List Char → List Char
  | [] => []
  | c :: cs =>
    if c.isAlphanum || c = '.' then
      (if gap then ['_', c.toLower] else [c.toLower]) ++ plainNameFrom false cs
    else plainNameFrom true cs

/-- A name as it is compared. -/
def plainName (name : String) : String :=
  String.ofList (plainNameFrom false (name.toList.dropWhile fun c => !(c.isAlphanum || c = '.')))

/-- The encodings that are no code pages, with their names. -/
def special : List (String × Encoding) :=
  [("utf_8 cp65001 u8 utf utf8 utf8_ucs2 utf8_ucs4", utf8),
    ("utf_8_sig", markedUtf8),
    ("ascii 646 ansi_x3.4_1968 ansi_x3_4_1968 ansi_x3.4_1986 cp367 csascii ibm367 iso646_us " ++
      "iso_646.irv_1991 iso_ir_6 us us_ascii", ascii),
    ("idna", labels),
    ("latin_1 8859 cp819 csisolatin1 ibm819 iso8859 iso8859_1 iso_8859_1 iso_8859_1_1987 " ++
      "iso_ir_100 l1 latin latin1", page .latin),
    ("charmap", page .latin),
    ("unicode_escape", escaped .all),
    ("raw_unicode_escape", escaped .raw),
    ("punycode", punycode),
    ("utf_16 u16 utf16", pairs none),
    ("utf_16_le unicodelittleunmarked utf_16le", pairs (some .little)),
    ("utf_16_be unicodebigunmarked utf_16be", pairs (some .big)),
    ("utf_32 u32 utf32", quads none),
    ("utf_32_le utf_32le", quads (some .little)),
    ("utf_32_be utf_32be", quads (some .big)),
    ("utf_7 u7 unicode_1_1_utf_7 utf7", shifted),
    ("undefined", undefined)]

/-- The encodings of East Asia with their names. -/
def eastAsianNames : List (String × Encoding) :=
  [("big5 big5_tw csbig5 x_mac_trad_chinese", eastAsian .big5),
    ("big5hkscs big5_hkscs hkscs", eastAsian .big5hkscs),
    ("cp932 932 ms932 ms_kanji mskanji", eastAsian .cp932),
    ("cp949 949 ms949 uhc", eastAsian .cp949),
    ("cp950 950 ms950", eastAsian .cp950),
    ("euc_jis_2004 euc_jis2004 eucjis2004 jisx0213", eastAsian .eucJis2004),
    ("euc_jisx0213 eucjisx0213", eastAsian .eucJisx0213),
    ("euc_jp eucjp u_jis ujis", eastAsian .eucJp),
    ("euc_kr euckr korean ks_c_5601 ks_c_5601_1987 ks_x_1001 ksc5601 ksx1001 x_mac_korean",
      eastAsian .eucKr),
    ("gb18030 gb18030_2000", eastAsian .gb18030),
    ("gb2312 chinese csiso58gb231280 euc_cn euccn eucgb2312_cn gb2312_1980 gb2312_80 iso_ir_58 " ++
      "x_mac_simp_chinese", eastAsian .gb2312),
    ("gbk 936 cp936 ms936", eastAsian .gbk),
    ("hz hz_gb hz_gb_2312 hzgb", eastAsian .hz),
    ("johab cp1361 ms1361", eastAsian .johab),
    ("shift_jis csshiftjis s_jis shiftjis sjis x_mac_japanese", eastAsian .shiftJis),
    ("shift_jis_2004 s_jis_2004 shiftjis2004 sjis_2004", eastAsian .shiftJis2004),
    ("shift_jisx0213 s_jisx0213 shiftjisx0213 sjisx0213", eastAsian .shiftJisx0213),
    ("iso2022_jp csiso2022jp iso2022jp iso_2022_jp", switching .japanese),
    ("iso2022_jp_1 iso2022jp_1 iso_2022_jp_1", switching .japaneseOne),
    ("iso2022_jp_2 iso2022jp_2 iso_2022_jp_2", switching .japaneseTwo),
    ("iso2022_jp_2004 iso2022jp_2004 iso_2022_jp_2004", switching .japanese2004),
    ("iso2022_jp_3 iso2022jp_3 iso_2022_jp_3", switching .japaneseThree),
    ("iso2022_jp_ext iso2022jp_ext iso_2022_jp_ext", switching .japaneseExtended),
    ("iso2022_kr csiso2022kr iso2022kr iso_2022_kr", switching .korean)]

/-- The ways to store bytes that are no encodings of texts, by their names. -/
def transforms : List String :=
  ["base64_codec base64 base_64", "bz2_codec bz2", "hex_codec hex",
    "quopri_codec quopri quoted_printable quotedprintable", "rot_13 rot13", "uu_codec uu",
    "zlib_codec zip zlib"]

/-- Whether a name as it is compared is one of some names. Points may stand for underscores in all of them but
the first one. -/
def isNamed (name names : String) : Bool :=
  let others := (names.splitOn " ").drop 1
  (names.splitOn " ").head? = some name || name ∈ others ||
    String.ofList (name.toList.map fun c => if c = '.' then '_' else c) ∈ others

/-- Whether a name is that of a way to store bytes that is no encoding of texts. -/
def isTransform (name : String) : Bool := transforms.any (isNamed (plainName name))

def ofName? (name : String) : Option Encoding :=
  if name = "locale" then some utf8
  else
    let name := plainName name
    match (special ++ eastAsianNames).find? fun e => isNamed name e.1 with
    | some (_, e) => some e
    | none => (Table.codePages.find? fun e => isNamed name e.1).map fun e => page (.ofRows e.2)

/-- Fails where bytes without a mark of their order were read. -/
def marked (name : String) (o : Option ByteOrder) (cs : List Char) : Except Undecodable (List Char) :=
  if o.isNone && !cs.isEmpty then .error (.noMark name) else .ok cs

/-- The characters of bytes; `half` gives a character for each half. -/
def decode (e : Encoding) (half : Nat → Char) (bs : List UInt8) : Except Undecodable (List Char) :=
  let plain := fun (bs : List UInt8) => ((String.fromUTF8? ⟨bs.toArray⟩).getD "").toList
  match e with
  | utf8 => .ok (plain bs)
  | markedUtf8 => .ok (if bs.take 3 = [0xEF, 0xBB, 0xBF] then plain (bs.drop 3) else plain bs)
  | ascii =>
    match bs.zipIdx.find? fun b => 128 ≤ b.1 with
    | some (b, place) => .error (.stray "ascii" place 1 b "ordinal not in range(128)")
    | none => .ok (bs.map fun b => Char.ofNat b.toNat)
  | page p => p.decode bs
  | pairs o => do marked "UTF-16" o (← decodePairs (o.getD .usual) 0 bs)
  | quads o => do marked "UTF-32" o (← decodeQuads (o.getD .usual) 0 bs)
  | shifted => decodeShifted half 0 none bs
  | eastAsian e => e.decode bs
  | switching s => s.decode bs
  | escaped e => e.decode half bs
  | punycode => Punycode.decode half bs
  | labels => Label.decode bs
  | undefined => .error .noCharacters

/-- The text that the bytes of a text make in an encoding. -/
def reread (e : Encoding) (text : String) : Except Undecodable HalvedText :=
  match e with
  | utf8 => .ok { text }
  | e => HalvedText.ofDecoder fun half => e.decode half text.toUTF8.toList

end Encoding

end SdkGen.Text
