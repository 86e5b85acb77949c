import SchemaDecl.Text.CodePage
import SchemaDecl.Text.Seven
import SchemaDecl.Text.Wide

/-! Encodings by the names they go by. Damage in a text becomes replacement characters, except that
units of several bytes need a mark in front that tells their order, unless the name does. Some names
stand for encodings that do not serve for whole texts, or for none at all. -/

namespace SchemaDecl.Text

inductive Charset where
  | ascii
  | latin
  | utf8
  /-- With a mark in front, which is left off. -/
  | markedUtf8
  | wide (form : Wide.Form)
  /-- The order of bytes is told by a mark. -/
  | markedWide (isDouble : Bool)
  | page (p : CodePage)
  | seven
  /-- Bytes for bytes, or characters for characters. -/
  | notText (takesBytes : Bool)
  | refusing (reason : String)
  deriving DecidableEq, Repr

/-- Why bytes cannot be decoded. -/
inductive CharsetError where
  | markMissing (isDouble : Bool)
  | refused (reason : String)
  | notText (takesBytes : Bool)
  deriving DecidableEq, Inhabited, Repr

def CharsetError.message : CharsetError → String
  | .markMissing isDouble =>
    (if isDouble then "UTF-32" else "UTF-16") ++ " stream does not start with BOM"
  | .refused reason => reason
  | .notText takesBytes =>
    if takesBytes then "An encoding of bytes is no encoding of texts" else "A text was expected, not bytes"

namespace Charset

/-! ### Names -/

/-- A name in the form of the tables: small letters, digits and points, and an underscore for whatever
stands between them. -/
def plainName (name : String) : List Char :=
  go false false (name.toList.map Char.toLower)
where
  go (begun gap : Bool) : List Char → List Char
    | [] => []
    | c :: s =>
      if c.isAlphanum || c == '.' then (if begun && gap then ['_', c] else [c]) ++ go true false s
      else go begun true s

def asciiNames : List String :=
  ["ascii", "646", "ansi_x3.4_1968", "ansi_x3.4_1986", "ansi_x3_4_1968", "cp367", "csascii", "ibm367",
    "iso646_us", "iso_646.irv_1991", "iso_ir_6", "us", "us_ascii"]

/-- Encodings of several bytes for a character, which are read as far as they agree with ASCII. -/
def mixedNames : List String :=
  ["big5", "big5_tw", "csbig5", "big5hkscs", "big5_hkscs", "hkscs", "cp932", "932", "ms932", "ms_kanji",
    "mskanji", "cp949", "949", "ms949", "uhc", "cp950", "950", "ms950", "euc_jp", "eucjp", "u_jis",
    "ujis", "euc_kr", "euckr", "korean", "ks_c_5601", "ks_c_5601_1987", "ks_x_1001", "ksc5601",
    "ksx1001", "gb18030", "gb18030_2000", "gb2312", "chinese", "csiso58gb231280", "euc_cn", "euccn",
    "eucgb2312_cn", "gb2312_1980", "gb2312_80", "iso_ir_58", "gbk", "936", "cp936", "ms936", "hz",
    "hz_gb", "hz_gb_2312", "hzgb", "iso2022_jp", "csiso2022jp", "iso2022jp", "iso_2022_jp",
    "iso2022_kr", "csiso2022kr", "iso2022kr", "iso_2022_kr", "johab", "cp1361", "ms1361", "shift_jis",
    "csshiftjis", "s_jis", "shiftjis", "sjis"]

def latinNames : List String :=
  ["latin_1", "8859", "cp819", "csisolatin1", "ibm819", "iso8859", "iso8859_1", "iso_8859_1",
    "iso_8859_1_1987", "iso_ir_100", "l1", "latin", "latin1", "charmap", "unicode_escape",
    "raw_unicode_escape"]

def utf8Names : List String :=
  ["utf_8", "cp65001", "u8", "utf", "utf8", "utf8_ucs2", "utf8_ucs4"]

/-- Names of encodings from bytes to bytes. -/
def bytesNames : List String :=
  ["base64", "base_64", "base64_codec", "hex", "hex_codec", "bz2", "bz2_codec", "zip", "zlib",
    "zlib_codec", "uu", "uu_codec", "quopri", "quoted_printable", "quotedprintable", "quopri_codec"]

def otherNames : List (List String × Charset) :=
  [(["utf_7", "u7", "unicode_1_1_utf_7", "utf7"], .seven),
    (["utf_8_sig"], .markedUtf8),
    (bytesNames, .notText true),
    (["rot13", "rot_13"], .notText false),
    (["undefined"], .refusing "undefined encoding"),
    (["idna"], .refusing "Unsupported error handling replace")]

def wideNames : List (List String × Charset) :=
  [(["utf_16", "u16", "utf16"], .markedWide false),
    (["utf_16_le", "unicodelittleunmarked", "utf_16le"], .wide ⟨false, false⟩),
    (["utf_16_be", "unicodebigunmarked", "utf_16be"], .wide ⟨false, true⟩),
    (["utf_32", "u32", "utf32"], .markedWide true),
    (["utf_32_le", "utf_32le"], .wide ⟨true, false⟩),
    (["utf_32_be", "utf_32be"], .wide ⟨true, true⟩)]

/-- The encoding with a name. -/
def ofName? (name : String) : Option Charset :=
  let plain := plainName name
  let found (n : String) : Option Charset :=
    if utf8Names.contains n then some .utf8
    else if latinNames.contains n then some .latin
    else if asciiNames.contains n || mixedNames.contains n then some .ascii
    else
      (((wideNames ++ otherNames).find? fun e => e.1.contains n).map Prod.snd) <|>
        (CodePage.all.find? fun p => p.names.contains n).map .page
  found (String.ofList plain) <|>
    found (String.ofList (plain.map fun c => if c == '.' then '_' else c))

/-! ### Decoding -/

/-- The order of bytes that a mark in front tells, and the bytes behind it. -/
def takeMark? : Bool → List UInt8 → Option (Bool × List UInt8)
  | false, 0xFF :: 0xFE :: rest => some (false, rest)
  | false, 0xFE :: 0xFF :: rest => some (true, rest)
  | true, 0xFF :: 0xFE :: 0 :: 0 :: rest => some (false, rest)
  | true, 0 :: 0 :: 0xFE :: 0xFF :: rest => some (true, rest)
  | _, _ => none

def withoutMark : List UInt8 → List UInt8
  | 0xEF :: 0xBB :: 0xBF :: rest => rest
  | bytes => bytes

/-- The text of bytes in an encoding. -/
def decode (c : Charset) (bytes : List UInt8) : Except CharsetError String :=
  match c with
  | .ascii => .ok (String.ofList (bytes.map fun b => if b < 128 then Char.ofNat b.toNat else '\ufffd'))
  | .latin => .ok (String.ofList (bytes.map fun b => Char.ofNat b.toNat))
  | .utf8 => .ok (decodeLossy bytes)
  | .markedUtf8 => .ok (decodeLossy (withoutMark bytes))
  | .wide f => .ok (f.decodeLossy bytes)
  | .page p => .ok (p.decode bytes)
  | .markedWide isDouble =>
    match takeMark? isDouble bytes with
    | some (isBig, rest) => .ok (Wide.Form.decodeLossy ⟨isDouble, isBig⟩ rest)
    | none =>
      -- what is too short for a unit is damage and not looked at for a mark
      if bytes.length < (if isDouble then 4 else 2) then .ok (if bytes.isEmpty then "" else "\ufffd")
      else .error (.markMissing isDouble)
  | .seven => .ok (Seven.decode bytes)
  | .notText takesBytes => .error (.notText takesBytes)
  | .refusing reason => .error (.refused reason)

example : ofName? "ISO-8859-1" = some .latin := by decide +kernel

end Charset

end SchemaDecl.Text
