import SpinLidar.Markup.Names
import SpinLidar.Markup.Element
namespace SpinLidar

namespace Markup

def asciiCodecs : List String := ((
  ("ansi_x3.4_1968 ansi_x3.4_1986 ansi_x3_4_1968 ascii cp367 cp65001 csascii csiso2022jp hz " ++
   "hz_gb hz_gb_2312 hzgb ibm367 iso2022_jp iso2022_jp_1 iso2022_jp_2 iso2022_jp_2004 " ++
   "iso2022_jp_3 iso2022_jp_ext iso2022jp iso2022jp_1 iso2022jp_2 iso2022jp_2004 " ++
   "iso2022jp_3 iso2022jp_ext iso646_us iso_2022_jp iso_2022_jp_1 iso_2022_jp_2 " ++
   "iso_2022_jp_2004 iso_2022_jp_3 iso_2022_jp_ext iso_646.irv_1991 iso_ir_6 u8 us us_ascii " ++
   "utf utf8 utf8_ucs2 utf8_ucs4 utf_8 utf_8_sig ")).splitOn " ").filter (· ≠ "")

def byteCodecs : List String := ((
  ("arabic asmo_708 charmap cp1006 cp1051 cp1125 cp1250 cp1251 cp1252 cp1253 cp1254 cp1255 " ++
   "cp1256 cp1257 cp1258 cp154 cp437 cp720 cp737 cp775 cp819 cp850 cp852 cp855 cp856 cp857 " ++
   "cp858 cp860 cp861 cp862 cp863 cp864 cp865 cp866 cp866u cp869 cp874 cp_gr cp_is csibm855 " ++
   "csibm857 csibm858 csibm860 csibm861 csibm863 csibm864 csibm865 csibm866 csibm869 " ++
   "csisolatin1 csisolatin2 csisolatin3 csisolatin4 csisolatin5 csisolatin6 " ++
   "csisolatinarabic csisolatincyrillic csisolatingreek csisolatinhebrew cskoi8r " ++
   "cspc775baltic cspc850multilingual cspc862latinhebrew cspc8codepage437 cspcp852 " ++
   "csptcp154 cyrillic cyrillic_asian ecma_114 ecma_118 elot_928 greek greek8 hebrew " ++
   "hp_roman8 ibm1051 ibm1125 ibm437 ibm775 ibm819 ibm850 ibm852 ibm855 ibm857 ibm858 " ++
   "ibm860 ibm861 ibm862 ibm863 ibm864 ibm865 ibm866 ibm869 iso8859 iso8859_1 iso8859_10 " ++
   "iso8859_11 iso8859_13 iso8859_14 iso8859_15 iso8859_16 iso8859_2 iso8859_3 iso8859_4 " ++
   "iso8859_5 iso8859_6 iso8859_7 iso8859_8 iso8859_9 iso_8859_1 iso_8859_10 " ++
   "iso_8859_10_1992 iso_8859_11 iso_8859_11_2001 iso_8859_13 iso_8859_14 iso_8859_14_1998 " ++
   "iso_8859_15 iso_8859_16 iso_8859_16_2001 iso_8859_1_1987 iso_8859_2 iso_8859_2_1987 " ++
   "iso_8859_3 iso_8859_3_1988 iso_8859_4 iso_8859_4_1988 iso_8859_5 iso_8859_5_1988 " ++
   "iso_8859_6 iso_8859_6_1987 iso_8859_7 iso_8859_7_1987 iso_8859_8 iso_8859_8_1988 " ++
   "iso_8859_9 iso_8859_9_1989 iso_celtic iso_ir_100 iso_ir_101 iso_ir_109 iso_ir_110 " ++
   "iso_ir_126 iso_ir_127 iso_ir_138 iso_ir_144 iso_ir_148 iso_ir_157 iso_ir_166 iso_ir_199 " ++
   "iso_ir_226 koi8_r koi8_t koi8_u kz1048 kz_1048 l1 l10 l2 l3 l4 l5 l6 l7 l8 l9 latin " ++
   "latin1 latin10 latin2 latin3 latin4 latin5 latin6 latin7 latin8 latin9 latin_1 " ++
   "mac_centeuro mac_croatian mac_cyrillic mac_greek mac_iceland mac_latin2 mac_roman " ++
   "mac_romanian mac_turkish maccentraleurope maccyrillic macgreek maciceland macintosh " ++
   "maclatin2 macroman macturkish palmos pt154 ptcp154 r8 raw_unicode_escape rk1048 roman8 " ++
   "ruscii strk1048_2002 thai tis620 tis_620 tis_620_0 tis_620_2529_0 tis_620_2529_1 " ++
   "unicode_escape windows_1250 windows_1251 windows_1252 windows_1253 windows_1254 " ++
   "windows_1255 windows_1256 windows_1257 windows_1258 ")).splitOn " ").filter (· ≠ "")

def multiByteCodecs : List String := ((
  ("big5 big5_hkscs big5_tw big5hkscs chinese cp1361 cp932 cp936 cp949 cp950 csbig5 " ++
   "csiso2022kr csiso58gb231280 csshiftjis euc_cn euc_jis2004 euc_jis_2004 euc_jisx0213 " ++
   "euc_jp euc_kr euccn eucgb2312_cn eucjis2004 eucjisx0213 eucjp euckr gb18030 " ++
   "gb18030_2000 gb2312 gb2312_1980 gb2312_80 gbk hkscs iso2022_kr iso2022kr iso_2022_kr " ++
   "iso_ir_58 jisx0213 johab korean ks_c_5601 ks_c_5601_1987 ks_x_1001 ksc5601 ksx1001 " ++
   "ms1361 ms932 ms936 ms949 ms950 ms_kanji mskanji s_jis s_jis_2004 s_jisx0213 shift_jis " ++
   "shift_jis_2004 shift_jisx0213 shiftjis shiftjis2004 shiftjisx0213 sjis sjis_2004 " ++
   "sjisx0213 u16 u32 u7 u_jis uhc ujis unicode_1_1_utf_7 unicodebigunmarked " ++
   "unicodelittleunmarked utf16 utf32 utf7 utf_16 utf_16_be utf_16_le utf_16be utf_16le " ++
   "utf_32 utf_32_be utf_32_le utf_32be utf_32le utf_7 x_mac_japanese x_mac_korean " ++
   "x_mac_simp_chinese x_mac_trad_chinese ")).splitOn " ").filter (· ≠ "")

def binaryCodecs : List String := ((
  ("base64 base64_codec base_64 bz2 bz2_codec hex hex_codec quopri quopri_codec " ++
   "quoted_printable quotedprintable rot13 rot_13 uu uu_codec zip zlib zlib_codec ")).splitOn " ").filter (· ≠ "")

def foreignCodecs : List String := ((
  ("cp037 cp1026 cp1140 cp273 cp424 cp500 cp875 csibm037 csibm1026 csibm273 csibm424 " ++
   "csibm500 ebcdic_cp_be ebcdic_cp_ca ebcdic_cp_ch ebcdic_cp_he ebcdic_cp_nl ebcdic_cp_us " ++
   "ebcdic_cp_wt ibm037 ibm039 ibm1026 ibm1140 ibm273 ibm424 ibm500 mac_arabic mac_farsi ")).splitOn " ").filter (· ≠ "")

/-- How a document's bytes are read: as UTF-8, or as UTF-16 in one of its byte orders. -/
inductive Form where
  | utf8
  | utf16 (bigEndian : Bool)
deriving DecidableEq, Repr

/-- How the characters after an encoding declaration are read: as before, one character a
byte as Latin-1, or one character a byte with the bytes beyond ASCII malformed. -/
inductive Reading where
  | same
  | latin1
  | asciiOnly
deriving DecidableEq, Repr

/-- What naming an encoding does: the characters after the declaration are read in some way;
or the name is incorrect for the document, or unknown to the parser (both problems of the
document, placed at the name); or the name is refused before the document is read further. -/
inductive Naming where
  | reads (r : Reading)
  | incorrect
  | unknownToParser
  | refused (f : Failure)
deriving DecidableEq, Repr

/-- A codec name as it is looked up: lower case, with every run of characters other than
letters, digits and dots written as one underscore, and none at either end. -/
def normalizeCodecName (name : String) : String :=
  let keep := fun (c : Char) => c.isAlphanum || c = '.'
  let words := (name.toLower.toList.splitBy fun a b => keep a == keep b).filter
    fun w => w.all keep
  "_".intercalate (words.map String.ofList)

def naming (form : Form) (name : String) : Naming :=
  let same := fun (ok : Bool) => if ok then Naming.reads .same else .incorrect
  match name.toUpper with
  | "UTF-8" => same (form = .utf8)
  | "UTF-16" => same (form ≠ .utf8)
  | "UTF-16BE" => same (form = .utf16 true)
  | "UTF-16LE" => same (form = .utf16 false)
  | "ISO-8859-1" => if form = .utf8 then .reads .latin1 else .incorrect
  | "US-ASCII" => if form = .utf8 then .reads .asciiOnly else .incorrect
  | _ =>
    let key := normalizeCodecName name
    let reading := fun (r : Reading) => Naming.reads (if form = .utf8 then r else .same)
    if binaryCodecs.contains key then .refused (.notTextCodec name)
    else if multiByteCodecs.contains key then .refused .multiByteCodec
    else if foreignCodecs.contains key then .unknownToParser
    else if asciiCodecs.contains key then reading .asciiOnly
    else if byteCodecs.contains key then reading .latin1
    else .refused (.unknownCodec name)

def malformed : Char := Char.ofNat 0xFFFF

def readBytes (r : Reading) (bytes : List UInt8) : List Char :=
  bytes.map fun b =>
    if b.toNat < 0x80 || r = .latin1 then Char.ofNat b.toNat else malformed

def units (bigEndian : Bool) : List UInt8 → List Nat
  | a :: b :: rest =>
    (if bigEndian then a.toNat * 256 + b.toNat else a.toNat + b.toNat * 256) ::
      units bigEndian rest
  | _ => []

/-- The characters of sixteen-bit units. A high surrogate takes the unit after it along, and
makes one character beyond the basic plane (the first one when the pair is not a proper one); a
low surrogate on its own, or a high one at the end, is a character a document may not hold. -/
def unitChars : List Nat → List Char
  | [] => []
  | u :: rest =>
    if 0xD800 ≤ u && u < 0xDC00 then
      match rest with
      | v :: more =>
        let c := if 0xDC00 ≤ v && v < 0xE000 then 0x10000 + (u - 0xD800) * 0x400 + (v - 0xDC00)
          else 0x10000
        Char.ofNat c :: unitChars more
      | [] => [malformed]
    else if 0xDC00 ≤ u && u < 0xE000 then malformed :: unitChars rest
    else Char.ofNat u :: unitChars rest

def formOf (bytes : ByteArray) : Form :=
  if bytes[0]? == some 0 then .utf16 true
  else if bytes[1]? == some 0 then .utf16 false
  else .utf8

end Markup

end SpinLidar
