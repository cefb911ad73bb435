import LexScan.CharClass
import LexScan.Encoding.Charset
import LexScan.Encoding.EastAsian
import LexScan.Encoding.Gb18030
import LexScan.Encoding.Utf16
import LexScan.Encoding.Utf8

/-!
# Encodings by label

The encodings of the web and the labels by which they are known. A label is
found without regard to the case of its letters and to white space around it.
Decoding removes one byte order mark of the encoding itself. What the tables of
East Asian encodings say is a parameter of it.
-/

namespace LexScan

inductive Encoding where
  | utf8
  | utf16 (order : Encoding.ByteOrder)
  | charset (set : Encoding.Charset)
  /-- The Hebrew set for text in logical order. -/
  | isoHebrewLogical
  | gbk
  | gb18030
  | big5
  | eucJp
  | iso2022Jp
  | shiftJis
  | eucKr
  /-- Stands for encodings that are not to be read at all. -/
  | replacement
  | userDefined
deriving DecidableEq, Repr

namespace Encoding

/-- An encoding with its name and its labels. -/
structure Listing where
  encoding : Encoding
  name : Text
  labels : List String

/-- All encodings. -/
def listings : List Listing := [
  ⟨.utf8, "UTF-8".toList,
    ["unicode-1-1-utf-8", "unicode11utf8", "unicode20utf8", "utf-8", "utf8",
     "x-unicode20utf8"]⟩,
  ⟨.charset .ibm866, "IBM866".toList,
    ["866", "cp866", "csibm866", "ibm866"]⟩,
  ⟨.charset .latin2, "ISO-8859-2".toList,
    ["csisolatin2", "iso-8859-2", "iso-ir-101", "iso8859-2", "iso88592", "iso_8859-2",
     "iso_8859-2:1987", "l2", "latin2"]⟩,
  ⟨.charset .latin3, "ISO-8859-3".toList,
    ["csisolatin3", "iso-8859-3", "iso-ir-109", "iso8859-3", "iso88593", "iso_8859-3",
     "iso_8859-3:1988", "l3", "latin3"]⟩,
  ⟨.charset .latin4, "ISO-8859-4".toList,
    ["csisolatin4", "iso-8859-4", "iso-ir-110", "iso8859-4", "iso88594", "iso_8859-4",
     "iso_8859-4:1988", "l4", "latin4"]⟩,
  ⟨.charset .isoCyrillic, "ISO-8859-5".toList,
    ["csisolatincyrillic", "cyrillic", "iso-8859-5", "iso-ir-144", "iso8859-5", "iso88595",
     "iso_8859-5", "iso_8859-5:1988"]⟩,
  ⟨.charset .isoArabic, "ISO-8859-6".toList,
    ["arabic", "asmo-708", "csiso88596e", "csiso88596i", "csisolatinarabic", "ecma-114",
     "iso-8859-6", "iso-8859-6-e", "iso-8859-6-i", "iso-ir-127", "iso8859-6", "iso88596",
     "iso_8859-6", "iso_8859-6:1987"]⟩,
  ⟨.charset .isoGreek, "ISO-8859-7".toList,
    ["csisolatingreek", "ecma-118", "elot_928", "greek", "greek8", "iso-8859-7", "iso-ir-126",
     "iso8859-7", "iso88597", "iso_8859-7", "iso_8859-7:1987", "sun_eu_greek"]⟩,
  ⟨.charset .isoHebrew, "ISO-8859-8".toList,
    ["csiso88598e", "csisolatinhebrew", "hebrew", "iso-8859-8", "iso-8859-8-e", "iso-ir-138",
     "iso8859-8", "iso88598", "iso_8859-8", "iso_8859-8:1988", "visual"]⟩,
  ⟨.isoHebrewLogical, "ISO-8859-8-I".toList,
    ["csiso88598i", "iso-8859-8-i", "logical"]⟩,
  ⟨.charset .latin6, "ISO-8859-10".toList,
    ["csisolatin6", "iso-8859-10", "iso-ir-157", "iso8859-10", "iso885910", "l6", "latin6"]⟩,
  ⟨.charset .latin7, "ISO-8859-13".toList,
    ["iso-8859-13", "iso8859-13", "iso885913"]⟩,
  ⟨.charset .latin8, "ISO-8859-14".toList,
    ["iso-8859-14", "iso8859-14", "iso885914"]⟩,
  ⟨.charset .latin9, "ISO-8859-15".toList,
    ["csisolatin9", "iso-8859-15", "iso8859-15", "iso885915", "iso_8859-15", "l9"]⟩,
  ⟨.charset .latin10, "ISO-8859-16".toList,
    ["iso-8859-16"]⟩,
  ⟨.charset .koi8r, "KOI8-R".toList,
    ["cskoi8r", "koi", "koi8", "koi8-r", "koi8_r"]⟩,
  ⟨.charset .koi8u, "KOI8-U".toList,
    ["koi8-ru", "koi8-u"]⟩,
  ⟨.charset .macRoman, "macintosh".toList,
    ["csmacintosh", "mac", "macintosh", "x-mac-roman"]⟩,
  ⟨.charset .windows874, "windows-874".toList,
    ["dos-874", "iso-8859-11", "iso8859-11", "iso885911", "tis-620", "windows-874"]⟩,
  ⟨.charset .windows1250, "windows-1250".toList,
    ["cp1250", "windows-1250", "x-cp1250"]⟩,
  ⟨.charset .windows1251, "windows-1251".toList,
    ["cp1251", "windows-1251", "x-cp1251"]⟩,
  ⟨.charset .windows1252, "windows-1252".toList,
    ["ansi_x3.4-1968", "ascii", "cp1252", "cp819", "csisolatin1", "ibm819", "iso-8859-1",
     "iso-ir-100", "iso8859-1", "iso88591", "iso_8859-1", "iso_8859-1:1987", "l1", "latin1",
     "us-ascii", "windows-1252", "x-cp1252"]⟩,
  ⟨.charset .windows1253, "windows-1253".toList,
    ["cp1253", "windows-1253", "x-cp1253"]⟩,
  ⟨.charset .windows1254, "windows-1254".toList,
    ["cp1254", "csisolatin5", "iso-8859-9", "iso-ir-148", "iso8859-9", "iso88599",
     "iso_8859-9", "iso_8859-9:1989", "l5", "latin5", "windows-1254", "x-cp1254"]⟩,
  ⟨.charset .windows1255, "windows-1255".toList,
    ["cp1255", "windows-1255", "x-cp1255"]⟩,
  ⟨.charset .windows1256, "windows-1256".toList,
    ["cp1256", "windows-1256", "x-cp1256"]⟩,
  ⟨.charset .windows1257, "windows-1257".toList,
    ["cp1257", "windows-1257", "x-cp1257"]⟩,
  ⟨.charset .windows1258, "windows-1258".toList,
    ["cp1258", "windows-1258", "x-cp1258"]⟩,
  ⟨.charset .macCyrillic, "x-mac-cyrillic".toList,
    ["x-mac-cyrillic", "x-mac-ukrainian"]⟩,
  ⟨.gbk, "GBK".toList,
    ["chinese", "csgb2312", "csiso58gb231280", "gb2312", "gb_2312", "gb_2312-80", "gbk",
     "iso-ir-58", "x-gbk"]⟩,
  ⟨.gb18030, "gb18030".toList,
    ["gb18030"]⟩,
  ⟨.big5, "Big5".toList,
    ["big5", "big5-hkscs", "cn-big5", "csbig5", "x-x-big5"]⟩,
  ⟨.eucJp, "EUC-JP".toList,
    ["cseucpkdfmtjapanese", "euc-jp", "x-euc-jp"]⟩,
  ⟨.iso2022Jp, "ISO-2022-JP".toList,
    ["csiso2022jp", "iso-2022-jp"]⟩,
  ⟨.shiftJis, "Shift_JIS".toList,
    ["csshiftjis", "ms932", "ms_kanji", "shift-jis", "shift_jis", "sjis", "windows-31j",
     "x-sjis"]⟩,
  ⟨.eucKr, "EUC-KR".toList,
    ["cseuckr", "csksc56011987", "euc-kr", "iso-ir-149", "korean", "ks_c_5601-1987",
     "ks_c_5601-1989", "ksc5601", "ksc_5601", "windows-949"]⟩,
  ⟨.replacement, "replacement".toList,
    ["csiso2022kr", "hz-gb-2312", "iso-2022-cn", "iso-2022-cn-ext", "iso-2022-kr",
     "replacement"]⟩,
  ⟨.utf16 .big, "UTF-16BE".toList,
    ["unicodefffe", "utf-16be"]⟩,
  ⟨.utf16 .little, "UTF-16LE".toList,
    ["csunicode", "iso-10646-ucs-2", "ucs-2", "unicode", "unicodefeff", "utf-16", "utf-16le"]⟩,
  ⟨.userDefined, "x-user-defined".toList,
    ["x-user-defined"]⟩]

def listing? (e : Encoding) : Option Listing := listings.find? (·.encoding = e)

def name (e : Encoding) : Text := (e.listing?.map (·.name)).getD []

/-- White space that labels may have around them. -/
def isLabelSpace (c : Char) : Bool :=
  c = '\t' || c = '\n' || c = '\x0c' || c = '\r' || c = ' '

/-- A label in lower case without white space around it. -/
def normalLabel (label : Text) : Text :=
  (((label.trim.dropWhile isLabelSpace).reverse.dropWhile isLabelSpace).reverse).map
    Char.toLower

/-- The encoding that a label names. -/
def ofLabel? (label : Text) : Option Encoding :=
  (listings.find? fun l => l.labels.any fun s => s.toList = normalLabel label).map (·.encoding)

/-- The label that stands for no label. -/
def defaultLabel : Text := "utf-8".toList

/-- The byte order mark of an encoding; most have none. -/
def mark : Encoding → Bytes
  | utf8 => Utf8.mark
  | utf16 order => Utf16.mark order
  | _ => []

/-- The number of bytes that a byte order mark takes at the start. -/
def markLength (e : Encoding) (bytes : Bytes) : Nat :=
  if e.mark.isPrefixOf bytes then e.mark.length else 0

/-- Bytes from 128 on say private characters. -/
def nextUserDefined : Reader Unit := fun _ b _ =>
  if b < 0x80 then .ascii b () else .char 1 (Char.ofNat (0xF780 + (b.toNat - 0x80))) ()

/-- The tables of East Asian encodings: the character at a place, if there is one. -/
structure Tables where
  big5 : Nat → Option Char := fun _ => none
  eucKr : Nat → Option Char := fun _ => none
  gb18030 : Nat → Option Char := fun _ => none
  jis0208 : Nat → Option Char := fun _ => none
  jis0212 : Nat → Option Char := fun _ => none

def decode (tables : Tables) (e : Encoding) (bytes : Bytes) : Decoding :=
  let skipped := e.markLength bytes
  match e with
  | utf8 => readAll Utf8.next () skipped bytes
  | utf16 order => readAll (Utf16.next order) () skipped bytes
  | charset set => readAll set.next () skipped bytes
  | isoHebrewLogical => readAll Charset.isoHebrew.next () skipped bytes
  | gbk | gb18030 => readAll (Gb18030.next tables.gb18030) () skipped bytes
  | big5 => readAll (nextPaired (Big5.pair? tables.big5)) () skipped bytes
  | eucKr => readAll (nextPaired (EucKr.pair? tables.eucKr)) () skipped bytes
  | eucJp => readAll (EucJp.next tables.jis0208 tables.jis0212) () skipped bytes
  | iso2022Jp => readAll (Iso2022Jp.next tables.jis0208) Iso2022Jp.start skipped bytes
  | shiftJis => readAll (ShiftJis.next tables.jis0208) () skipped bytes
  | replacement => readAll (fun _ _ _ => Reading.bad 1 0) () skipped bytes
  | userDefined => readAll nextUserDefined () skipped bytes

end Encoding

end LexScan
