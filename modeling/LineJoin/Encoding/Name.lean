import LineJoin.Encoding.DoubleByte
import LineJoin.Encoding.SingleByte
import LineJoin.Encoding.Unicode

/-!
# Names of encodings

Encodings are known under many names. A name is compared without regard to case, and whatever
separates its letters and digits counts as one separator.
-/

namespace LineJoin.Encoding

inductive Codec where
  | utf8
  | utf8Marked
  | utf16
  | utf16Little
  | utf16Big
  | ascii
  | latin1
  | windows1252
  | gb18030
  | gb2312
  | big5
  | shiftJis
  | eucKr
  | eucJp
deriving DecidableEq, Repr

namespace Codec

def decoder : Codec → Decoder
  | utf8 => Utf8.decode
  | utf8Marked => Utf8.decodeMarked
  | utf16 => Utf16.decode
  | utf16Little => Utf16.decodeOrdered false
  | utf16Big => Utf16.decodeOrdered true
  | ascii => Ascii.decode
  | latin1 => Latin1.decode
  | windows1252 => Windows1252.decode
  | gb18030 => Gb18030.decode
  | gb2312 => Gb2312.decode
  | big5 => Big5.decode
  | shiftJis => ShiftJis.decode
  | eucKr => EucKr.decode
  | eucJp => EucJp.decode

def names : Codec → List String
  | utf8 => ["utf_8", "utf8", "utf", "u8", "utf8_ucs2", "utf8_ucs4", "cp65001"]
  | utf8Marked => ["utf_8_sig"]
  | utf16 => ["utf_16", "utf16", "u16"]
  | utf16Little => ["utf_16_le", "utf_16le", "unicodelittleunmarked"]
  | utf16Big => ["utf_16_be", "utf_16be", "unicodebigunmarked"]
  | ascii =>
    ["ascii", "us_ascii", "us", "646", "ansi_x3_4_1968", "ansi_x3_4_1986", "cp367", "csascii",
      "ibm367", "iso646_us", "iso_646_irv_1991", "iso_ir_6"]
  | latin1 =>
    ["latin_1", "latin1", "latin", "l1", "8859", "cp819", "csisolatin1", "ibm819", "iso8859",
      "iso8859_1", "iso_8859_1", "iso_8859_1_1987", "iso_ir_100"]
  | windows1252 => ["cp1252", "1252", "windows_1252"]
  | gb18030 => ["gb18030", "gb18030_2000"]
  | gb2312 =>
    ["gb2312", "chinese", "csiso58gb231280", "euc_cn", "euccn", "eucgb2312_cn", "gb2312_1980",
      "gb2312_80", "iso_ir_58", "x_mac_simp_chinese"]
  | big5 => ["big5", "big5_tw", "csbig5", "x_mac_trad_chinese"]
  | shiftJis => ["shift_jis", "csshiftjis", "shiftjis", "sjis", "s_jis", "x_mac_japanese"]
  | eucKr =>
    ["euc_kr", "euckr", "korean", "ksc5601", "ks_c_5601", "ks_c_5601_1987", "ksx1001", "ks_x_1001",
      "x_mac_korean"]
  | eucJp => ["euc_jp", "eucjp", "ujis", "u_jis"]

def all : List Codec :=
  [utf8, utf8Marked, utf16, utf16Little, utf16Big, ascii, latin1, windows1252, gb18030, gb2312,
    big5, shiftJis, eucKr, eucJp]

end Codec

/-- Names of codings that do not give text. -/
def binaryNames : List String :=
  ["hex", "hex_codec", "base64", "base_64", "base64_codec", "bz2", "bz2_codec", "zip", "zlib",
    "zlib_codec", "quopri", "quoted_printable", "quotedprintable", "quopri_codec", "uu", "uu_codec",
    "rot13", "rot_13"]

def isNameChar (c : Char) : Bool := c.isAlphanum || c == '.'

/-- Letters, digits and points in small letters, with one separator for whatever stands between. -/
def standardChars : Bool → List Char → List Char
  | _, [] => []
  | pending, c :: rest =>
    if isNameChar c then
      (if pending then ['_'] else []) ++ c.toLower :: standardChars false rest
    else standardChars true rest

def standardName (name : String) : String :=
  String.ofList (standardChars false (name.toList.dropWhile (!isNameChar ·)))

/-- Whether a codec has a name in standard form. A point may stand for a separator in all names but
the first. -/
def Codec.hasName (codec : Codec) (key : String) : Bool :=
  let pointless := String.ofList (key.toList.map fun c => if c = '.' then '_' else c)
  codec.names.contains key || (key != pointless && (codec.names.drop 1).contains pointless)

/-- What comes of decoding bytes under a name. -/
inductive Attempt where
  | text (cs : List Char)
  | fault (f : Fault)
  | unknown
  | notText
deriving DecidableEq

/-- Decodes bytes under a name. Without bytes there is nothing to decode, whatever the name. -/
def decodeNamed (name : String) (data : Bytes) : Attempt :=
  if data.isEmpty then .text []
  else
    let key := standardName name
    match Codec.all.find? (·.hasName key) with
    | some codec =>
      match codec.decoder data with
      | .ok cs => .text cs
      | .error f => .fault f
    | none => if binaryNames.contains key then .notText else .unknown

/-- What else can come of decoding, which ends any further attempt. -/
inductive Mishap where
  /-- An error that is not about the bytes. -/
  | raised (message : String)
  /-- A text in which halves of pairs stand alone, by its code points. -/
  | halved (codes : List Nat)
deriving DecidableEq

/-- What comes of decoding bytes under each name. -/
abbrev Registry := String → Bytes → Except Mishap Attempt

/-- Decoding that never ends in a mishap. -/
def Registry.of (decodeAs : String → Bytes → Attempt) : Registry :=
  fun name data => .ok (decodeAs name data)

/-- The encodings that are known here. No name has a null character, and one name stands for an
encoding that decodes nothing. -/
def standardRegistry : Registry := fun name data =>
  if name.toList.contains '\x00' then .error (.raised "embedded null character")
  else if !data.isEmpty && standardName name == "undefined" then
    .error (.raised
      ("decoding with '" ++ name ++ "' codec failed (UnicodeError: undefined encoding)"))
  else .ok (decodeNamed name data)

/-- Why an attempt gave no text. -/
def Attempt.message (name : String) : Attempt → String
  | text _ => ""
  | fault f => f.message
  | unknown => "unknown encoding: " ++ name
  | notText =>
    "'" ++ name ++ "' is not a text encoding; use codecs.decode() to handle arbitrary codecs"

end LineJoin.Encoding
