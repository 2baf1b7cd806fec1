import RailWatch.Text.Blank
import RailWatch.Text.Charset.Big5
import RailWatch.Text.Charset.EucKr
import RailWatch.Text.Charset.Gb18030
import RailWatch.Text.Charset.Jis
import RailWatch.Text.Charset.SingleOctet
import RailWatch.Text.Charset.Utf16
/-!
# RailWatch.Text.Charset

Octets as text in one of the charsets of the web.

A `Charset` is chosen by one of its labels, and a byte order mark at the front of the octets
overrides the choice. Decoding never fails: what is no text counts as replacement characters. The
labels of Latin 1 and of ASCII stand for a charset that extends both, and some charsets are refused:
whatever is written in them is one replacement character.
-/

namespace RailWatch.Text

/-- A way to write text as octets. -/
inductive Charset
  | utf8
  | utf16Little
  | utf16Big
  /-- One octet a character, by a chart of the upper half. -/
  | singleOctet (upper : List Charset.CellRun)
  /-- The upper half is for private use. -/
  | privateUse
  | gb18030
  | big5
  | eucKr
  | eucJp
  | iso2022Jp
  | shiftJis
  /-- A charset that is never decoded. -/
  | refused
deriving DecidableEq

namespace Charset

/-- The charsets and the labels that they go by. -/
def labels : List (Charset × List String) := [
    (utf8, ["unicode-1-1-utf-8", "unicode11utf8", "unicode20utf8", "utf-8", "utf8",
      "x-unicode20utf8"]),
    (utf16Little, ["csunicode", "iso-10646-ucs-2", "ucs-2", "unicode", "unicodefeff", "utf-16",
      "utf-16le"]),
    (utf16Big, ["unicodefffe", "utf-16be"]),
    (singleOctet ibm866, ["866", "cp866", "csibm866", "ibm866"]),
    (singleOctet latin2, ["csisolatin2", "iso-8859-2", "iso-ir-101", "iso8859-2", "iso88592",
      "iso_8859-2", "iso_8859-2:1987", "l2", "latin2"]),
    (singleOctet latin3, ["csisolatin3", "iso-8859-3", "iso-ir-109", "iso8859-3", "iso88593",
      "iso_8859-3", "iso_8859-3:1988", "l3", "latin3"]),
    (singleOctet latin4, ["csisolatin4", "iso-8859-4", "iso-ir-110", "iso8859-4", "iso88594",
      "iso_8859-4", "iso_8859-4:1988", "l4", "latin4"]),
    (singleOctet isoCyrillic, ["csisolatincyrillic", "cyrillic", "iso-8859-5", "iso-ir-144",
      "iso8859-5", "iso88595", "iso_8859-5", "iso_8859-5:1988"]),
    (singleOctet isoArabic, ["arabic", "asmo-708", "csiso88596e", "csiso88596i",
      "csisolatinarabic", "ecma-114", "iso-8859-6", "iso-8859-6-e", "iso-8859-6-i", "iso-ir-127",
      "iso8859-6", "iso88596", "iso_8859-6", "iso_8859-6:1987"]),
    (singleOctet isoGreek, ["csisolatingreek", "ecma-118", "elot_928", "greek", "greek8",
      "iso-8859-7", "iso-ir-126", "iso8859-7", "iso88597", "iso_8859-7", "iso_8859-7:1987",
      "sun_eu_greek"]),
    (singleOctet isoHebrew, ["csiso88598e", "csisolatinhebrew", "hebrew", "iso-8859-8",
      "iso-8859-8-e", "iso-ir-138", "iso8859-8", "iso88598", "iso_8859-8", "iso_8859-8:1988",
      "visual", "csiso88598i", "iso-8859-8-i", "logical"]),
    (singleOctet latin6, ["csisolatin6", "iso-8859-10", "iso-ir-157", "iso8859-10", "iso885910",
      "l6", "latin6"]),
    (singleOctet latin7, ["iso-8859-13", "iso8859-13", "iso885913"]),
    (singleOctet latin8, ["iso-8859-14", "iso8859-14", "iso885914"]),
    (singleOctet latin9, ["csisolatin9", "iso-8859-15", "iso8859-15", "iso885915", "iso_8859-15",
      "l9"]),
    (singleOctet latin10, ["iso-8859-16"]),
    (singleOctet koi8Russian, ["cskoi8r", "koi", "koi8", "koi8-r", "koi8_r"]),
    (singleOctet koi8Ukrainian, ["koi8-ru", "koi8-u"]),
    (singleOctet macRoman, ["csmacintosh", "mac", "macintosh", "x-mac-roman"]),
    (singleOctet macCyrillic, ["x-mac-cyrillic", "x-mac-ukrainian"]),
    (singleOctet windowsThai, ["dos-874", "iso-8859-11", "iso8859-11", "iso885911", "tis-620",
      "windows-874"]),
    (singleOctet windowsCentral, ["cp1250", "windows-1250", "x-cp1250"]),
    (singleOctet windowsCyrillic, ["cp1251", "windows-1251", "x-cp1251"]),
    (singleOctet windowsWestern, ["ansi_x3.4-1968", "ascii", "cp1252", "cp819", "csisolatin1",
      "ibm819", "iso-8859-1", "iso-ir-100", "iso8859-1", "iso88591", "iso_8859-1",
      "iso_8859-1:1987", "l1", "latin1", "us-ascii", "windows-1252", "x-cp1252"]),
    (singleOctet windowsGreek, ["cp1253", "windows-1253", "x-cp1253"]),
    (singleOctet windowsTurkish, ["cp1254", "csisolatin5", "iso-8859-9", "iso-ir-148",
      "iso8859-9", "iso88599", "iso_8859-9", "iso_8859-9:1989", "l5", "latin5", "windows-1254",
      "x-cp1254"]),
    (singleOctet windowsHebrew, ["cp1255", "windows-1255", "x-cp1255"]),
    (singleOctet windowsArabic, ["cp1256", "windows-1256", "x-cp1256"]),
    (singleOctet windowsBaltic, ["cp1257", "windows-1257", "x-cp1257"]),
    (singleOctet windowsVietnamese, ["cp1258", "windows-1258", "x-cp1258"]),
    (privateUse, ["x-user-defined"]),
    (gb18030, ["chinese", "csgb2312", "csiso58gb231280", "gb18030", "gb2312", "gb_2312",
      "gb_2312-80", "gbk", "iso-ir-58", "x-gbk"]),
    (big5, ["big5", "big5-hkscs", "cn-big5", "csbig5", "x-x-big5"]),
    (eucKr, ["cseuckr", "csksc56011987", "euc-kr", "iso-ir-149", "korean", "ks_c_5601-1987",
      "ks_c_5601-1989", "ksc5601", "ksc_5601", "windows-949"]),
    (eucJp, ["cseucpkdfmtjapanese", "euc-jp", "x-euc-jp"]),
    (iso2022Jp, ["csiso2022jp", "iso-2022-jp"]),
    (shiftJis, ["csshiftjis", "ms932", "ms_kanji", "shift-jis", "shift_jis", "sjis",
      "windows-31j", "x-sjis"]),
    (refused, ["csiso2022kr", "hz-gb-2312", "iso-2022-cn", "iso-2022-cn-ext", "iso-2022-kr",
      "replacement"])]

/-- The charset of a label. Neither case nor blanks at the ends matter. -/
def ofLabel? (label : List Char) : Option Charset :=
  let label := (trim label).map Char.toLower
  (labels.find? fun entry => entry.2.any fun l => l.toList = label).map (·.1)

/-- The text of octets. -/
def decodePlain (c : Charset) (octets : List UInt8) : List Char :=
  match c with
  | utf8 => Utf8.decodeLossy octets
  | utf16Little => Utf16.readLittle octets
  | utf16Big => Utf16.readBig octets
  | singleOctet upper => readSingle upper octets
  | privateUse => readPrivate octets
  | gb18030 => Gb18030.reader.read octets
  | big5 => Big5.reader.read octets
  | eucKr => EucKr.reader.read octets
  | eucJp => Jis.eucReader.read octets
  | iso2022Jp => Jis.escapeReader.read octets
  | shiftJis => Jis.shiftReader.read octets
  | refused => if octets.isEmpty then [] else [Utf8.replacement]

/-- The text of octets, by the byte order mark at their front if they have one. -/
def decode (c : Charset) : List UInt8 → List Char
  | 0xEF :: 0xBB :: 0xBF :: rest => decodePlain utf8 rest
  | 0xFF :: 0xFE :: rest => decodePlain utf16Little rest
  | 0xFE :: 0xFF :: rest => decodePlain utf16Big rest
  | octets => decodePlain c octets

example : ofLabel? " UTF-16 ".toList = some utf16Little := by decide +kernel
example : decode (singleOctet [(0x80, "€")]) [0x41, 0x80] = ['A', '€'] := by decide +kernel
example : decode refused [0x41, 0x42] = [Utf8.replacement] := by decide
example : decode refused [0xEF, 0xBB, 0xBF, 0x41] = ['A'] := by decide

end Charset
end RailWatch.Text
