import ChatRelay.Text.Blank
import ChatRelay.Text.CodePage
import ChatRelay.Text.Utf8

/-!
Reading a body as text in the character set that its sender names. A byte-order mark at the start
says better than the sender, and is no part of the text.
-/

namespace ChatRelay.Text

/-- A character set: UTF-8, UTF-16 in one of its byte orders, a table of the upper half, bytes
for private use, or one that is no longer read. Those with a table of characters of several bytes
are left out: GBK, gb18030, Big5, EUC-JP, ISO-2022-JP, Shift_JIS and EUC-KR. -/
inductive Charset where
  | utf8
  | utf16 (bigEndian : Bool)
  | page (upper : String)
  | userDefined
  | retired
  deriving DecidableEq, Repr, Inhabited

namespace Charset

/-- The names of each character set. Those of the sets that are left out are unknown here: a body
in one of them is read as UTF-8, where a client that has its table would read it by that. -/
def labels : List (Charset × List String) := [
  (.utf8,
    ["unicode-1-1-utf-8", "unicode11utf8", "unicode20utf8", "utf-8", "utf8",
      "x-unicode20utf8"]),
  (.page CodePage.ibm866,
    ["866", "cp866", "csibm866", "ibm866"]),
  (.page CodePage.iso88592,
    ["csisolatin2", "iso-8859-2", "iso-ir-101", "iso8859-2", "iso88592", "iso_8859-2",
      "iso_8859-2:1987", "l2", "latin2"]),
  (.page CodePage.iso88593,
    ["csisolatin3", "iso-8859-3", "iso-ir-109", "iso8859-3", "iso88593", "iso_8859-3",
      "iso_8859-3:1988", "l3", "latin3"]),
  (.page CodePage.iso88594,
    ["csisolatin4", "iso-8859-4", "iso-ir-110", "iso8859-4", "iso88594", "iso_8859-4",
      "iso_8859-4:1988", "l4", "latin4"]),
  (.page CodePage.iso88595,
    ["csisolatincyrillic", "cyrillic", "iso-8859-5", "iso-ir-144", "iso8859-5", "iso88595",
      "iso_8859-5", "iso_8859-5:1988"]),
  (.page CodePage.iso88596,
    ["arabic", "asmo-708", "csiso88596e", "csiso88596i", "csisolatinarabic", "ecma-114",
      "iso-8859-6", "iso-8859-6-e", "iso-8859-6-i", "iso-ir-127", "iso8859-6", "iso88596",
      "iso_8859-6", "iso_8859-6:1987"]),
  (.page CodePage.iso88597,
    ["csisolatingreek", "ecma-118", "elot_928", "greek", "greek8", "iso-8859-7", "iso-ir-126",
      "iso8859-7", "iso88597", "iso_8859-7", "iso_8859-7:1987", "sun_eu_greek"]),
  (.page CodePage.iso88598,
    ["csiso88598e", "csisolatinhebrew", "hebrew", "iso-8859-8", "iso-8859-8-e", "iso-ir-138",
      "iso8859-8", "iso88598", "iso_8859-8", "iso_8859-8:1988", "visual", "csiso88598i",
      "iso-8859-8-i", "logical"]),
  (.page CodePage.iso885910,
    ["csisolatin6", "iso-8859-10", "iso-ir-157", "iso8859-10", "iso885910", "l6", "latin6"]),
  (.page CodePage.iso885913,
    ["iso-8859-13", "iso8859-13", "iso885913"]),
  (.page CodePage.iso885914,
    ["iso-8859-14", "iso8859-14", "iso885914"]),
  (.page CodePage.iso885915,
    ["csisolatin9", "iso-8859-15", "iso8859-15", "iso885915", "iso_8859-15", "l9"]),
  (.page CodePage.iso885916,
    ["iso-8859-16"]),
  (.page CodePage.koi8R,
    ["cskoi8r", "koi", "koi8", "koi8-r", "koi8_r"]),
  (.page CodePage.koi8U,
    ["koi8-ru", "koi8-u"]),
  (.page CodePage.macintosh,
    ["csmacintosh", "mac", "macintosh", "x-mac-roman"]),
  (.page CodePage.windows874,
    ["dos-874", "iso-8859-11", "iso8859-11", "iso885911", "tis-620", "windows-874"]),
  (.page CodePage.windows1250,
    ["cp1250", "windows-1250", "x-cp1250"]),
  (.page CodePage.windows1251,
    ["cp1251", "windows-1251", "x-cp1251"]),
  (.page CodePage.windows1252,
    ["ansi_x3.4-1968", "ascii", "cp1252", "cp819", "csisolatin1", "ibm819", "iso-8859-1",
      "iso-ir-100", "iso8859-1", "iso88591", "iso_8859-1", "iso_8859-1:1987", "l1", "latin1",
      "us-ascii", "windows-1252", "x-cp1252"]),
  (.page CodePage.windows1253,
    ["cp1253", "windows-1253", "x-cp1253"]),
  (.page CodePage.windows1254,
    ["cp1254", "csisolatin5", "iso-8859-9", "iso-ir-148", "iso8859-9", "iso88599", "iso_8859-9",
      "iso_8859-9:1989", "l5", "latin5", "windows-1254", "x-cp1254"]),
  (.page CodePage.windows1255,
    ["cp1255", "windows-1255", "x-cp1255"]),
  (.page CodePage.windows1256,
    ["cp1256", "windows-1256", "x-cp1256"]),
  (.page CodePage.windows1257,
    ["cp1257", "windows-1257", "x-cp1257"]),
  (.page CodePage.windows1258,
    ["cp1258", "windows-1258", "x-cp1258"]),
  (.page CodePage.macCyrillic,
    ["x-mac-cyrillic", "x-mac-ukrainian"]),
  (.utf16 true,
    ["unicodefffe", "utf-16be"]),
  (.utf16 false,
    ["csunicode", "iso-10646-ucs-2", "ucs-2", "unicode", "unicodefeff", "utf-16", "utf-16le"]),
  (.userDefined,
    ["x-user-defined"]),
  (.retired,
    ["csiso2022kr", "hz-gb-2312", "iso-2022-cn", "iso-2022-cn-ext", "iso-2022-kr",
      "replacement"])]

def isLabelBlank (c : Char) : Bool :=
  c == ' ' || c == '\t' || c == '\n' || c == '\r' || c.toNat == 12

/-- The character set of a name, in any letter case and between blanks; none if the name is unknown
or that of one that is left out. -/
def ofLabel? (label : String) : Option Charset :=
  let trimmed := dropEnd isLabelBlank (label.toList.dropWhile isLabelBlank)
  let name := String.ofList (trimmed.map Char.toLower)
  (labels.find? fun (_, names) => names.contains name).map (·.1)

/-- The character set that a byte-order mark announces, and the bytes after the mark. -/
def ofMark? : List UInt8 → Option (Charset × List UInt8)
  | 0xEF :: 0xBB :: 0xBF :: rest => some (.utf8, rest)
  | 0xFF :: 0xFE :: rest => some (.utf16 false, rest)
  | 0xFE :: 0xFF :: rest => some (.utf16 true, rest)
  | _ => none

def pageChar (upper : Array Char) (b : UInt8) : Char :=
  if b < 0x80 then Char.ofNat b.toNat else upper.getD (b.toNat - 0x80) '\uFFFD'

def privateChar (b : UInt8) : Char :=
  if b < 0x80 then Char.ofNat b.toNat else Char.ofNat (0xF700 + b.toNat)

/-- The 16-bit units of bytes; an odd byte at the end is left over. -/
def units (bigEndian : Bool) : List UInt8 → List Nat × Bool
  | [] => ([], false)
  | [_] => ([], true)
  | a :: b :: rest =>
    let unit := if bigEndian then a.toNat * 256 + b.toNat else b.toNat * 256 + a.toNat
    let (more, odd) := units bigEndian rest
    (unit :: more, odd)

def isLead (unit : Nat) : Bool := 0xD800 ≤ unit && unit < 0xDC00

def isTrail (unit : Nat) : Bool := 0xDC00 ≤ unit && unit < 0xE000

/-- Text from 16-bit units. Half a pair alone reads as U+FFFD; one at the very end and an odd
byte after it are one fault. -/
def ofUnits (odd : Bool) : List Nat → List Char
  | [] => if odd then ['\uFFFD'] else []
  | [unit] =>
    if isLead unit then ['\uFFFD']
    else (if isTrail unit then '\uFFFD' else Char.ofNat unit) :: ofUnits odd []
  | unit :: next :: rest =>
    if isLead unit then
      if isTrail next then
        Char.ofNat (0x10000 + (unit - 0xD800) * 0x400 + (next - 0xDC00)) :: ofUnits odd rest
      else '\uFFFD' :: ofUnits odd (next :: rest)
    else (if isTrail unit then '\uFFFD' else Char.ofNat unit) :: ofUnits odd (next :: rest)

/-- The text of bytes in a character set; what is malformed reads as U+FFFD. -/
def decode : Charset → List UInt8 → List Char
  | utf8, bytes => Utf8.decodeLossy bytes
  | utf16 bigEndian, bytes =>
    let (all, odd) := units bigEndian bytes
    ofUnits odd all
  | page upper, bytes => bytes.map (pageChar upper.toList.toArray)
  | userDefined, bytes => bytes.map privateChar
  | retired, bytes => if bytes.isEmpty then [] else ['\uFFFD']

/-- The text of bytes whose sender names a character set, or none or an unknown one, which then
is UTF-8. -/
def read (label : Option String) (bytes : List UInt8) : List Char :=
  match ofMark? bytes with
  | some (charset, rest) => charset.decode rest
  | none => ((label.bind ofLabel?).getD .utf8).decode bytes

end Charset

end ChatRelay.Text
