import ConfigKeys.Charset.Chinese
import ConfigKeys.Charset.Japanese
import ConfigKeys.Charset.Korean
import ConfigKeys.Charset.SingleByte

/-!
# Charsets

The charsets that texts are exchanged in.

## Main definitions

* `CodePage`, `Charset` — the charsets, with `Charset.name`.
* `Charset.isWritable` — whether texts can be written in a charset.
* `Charset.coding` — how texts are written in it.
-/

namespace ConfigKeys

/-- A charset in which every character takes one byte. -/
inductive CodePage
  | ibm866
  | iso8859x2
  | iso8859x3
  | iso8859x4
  | iso8859x5
  | iso8859x6
  | iso8859x7
  /-- Hebrew in the order in which it is seen. -/
  | iso8859x8
  /-- Hebrew in the order in which it is read. -/
  | iso8859x8i
  | iso8859x10
  | iso8859x13
  | iso8859x14
  | iso8859x15
  | iso8859x16
  | koi8r
  | koi8u
  | macintosh
  | windows874
  | windows1250
  | windows1251
  | windows1252
  | windows1253
  | windows1254
  | windows1255
  | windows1256
  | windows1257
  | windows1258
  | macCyrillic
  deriving DecidableEq

namespace CodePage

/-- The characters of the bytes from `0x80` on. -/
def upper : CodePage → List Nat
  | .ibm866 => SingleByte.ibm866
  | .iso8859x2 => SingleByte.iso8859x2
  | .iso8859x3 => SingleByte.iso8859x3
  | .iso8859x4 => SingleByte.iso8859x4
  | .iso8859x5 => SingleByte.iso8859x5
  | .iso8859x6 => SingleByte.iso8859x6
  | .iso8859x7 => SingleByte.iso8859x7
  | .iso8859x8 => SingleByte.iso8859x8
  | .iso8859x8i => SingleByte.iso8859x8
  | .iso8859x10 => SingleByte.iso8859x10
  | .iso8859x13 => SingleByte.iso8859x13
  | .iso8859x14 => SingleByte.iso8859x14
  | .iso8859x15 => SingleByte.iso8859x15
  | .iso8859x16 => SingleByte.iso8859x16
  | .koi8r => SingleByte.koi8r
  | .koi8u => SingleByte.koi8u
  | .macintosh => SingleByte.macintosh
  | .windows874 => SingleByte.windows874
  | .windows1250 => SingleByte.windows1250
  | .windows1251 => SingleByte.windows1251
  | .windows1252 => SingleByte.windows1252
  | .windows1253 => SingleByte.windows1253
  | .windows1254 => SingleByte.windows1254
  | .windows1255 => SingleByte.windows1255
  | .windows1256 => SingleByte.windows1256
  | .windows1257 => SingleByte.windows1257
  | .windows1258 => SingleByte.windows1258
  | .macCyrillic => SingleByte.macCyrillic

/-- The name that hosts are told. -/
def name : CodePage → String
  | .ibm866 => "IBM866"
  | .iso8859x2 => "ISO-8859-2"
  | .iso8859x3 => "ISO-8859-3"
  | .iso8859x4 => "ISO-8859-4"
  | .iso8859x5 => "ISO-8859-5"
  | .iso8859x6 => "ISO-8859-6"
  | .iso8859x7 => "ISO-8859-7"
  | .iso8859x8 => "ISO-8859-8"
  | .iso8859x8i => "ISO-8859-8-I"
  | .iso8859x10 => "ISO-8859-10"
  | .iso8859x13 => "ISO-8859-13"
  | .iso8859x14 => "ISO-8859-14"
  | .iso8859x15 => "ISO-8859-15"
  | .iso8859x16 => "ISO-8859-16"
  | .koi8r => "KOI8-R"
  | .koi8u => "KOI8-U"
  | .macintosh => "macintosh"
  | .windows874 => "windows-874"
  | .windows1250 => "windows-1250"
  | .windows1251 => "windows-1251"
  | .windows1252 => "windows-1252"
  | .windows1253 => "windows-1253"
  | .windows1254 => "windows-1254"
  | .windows1255 => "windows-1255"
  | .windows1256 => "windows-1256"
  | .windows1257 => "windows-1257"
  | .windows1258 => "windows-1258"
  | .macCyrillic => "x-mac-cyrillic"

/-- How texts are written in a code page. -/
def coding (page : CodePage) : UnitCoding :=
  .ofBytes (SingleByte.char? page.upper) (SingleByte.byte? page.upper)

end CodePage

/-- A charset. -/
inductive Charset
  | utf8
  | singleByte (page : CodePage)
  /-- ASCII with private characters above it. -/
  | userDefined
  | shiftJis
  | eucJp
  | iso2022Jp
  | gbk
  | gb18030
  | big5
  | eucKr
  | utf16be
  | utf16le
  /-- What stands for charsets that are too dangerous to read. -/
  | replacement
  deriving DecidableEq

namespace Charset

/-- The name that hosts are told. -/
def name : Charset → String
  | .utf8 => "UTF-8"
  | .singleByte page => page.name
  | .userDefined => "x-user-defined"
  | .shiftJis => "Shift_JIS"
  | .eucJp => "EUC-JP"
  | .iso2022Jp => "ISO-2022-JP"
  | .gbk => "GBK"
  | .gb18030 => "gb18030"
  | .big5 => "Big5"
  | .eucKr => "EUC-KR"
  | .utf16be => "UTF-16BE"
  | .utf16le => "UTF-16LE"
  | .replacement => "replacement"

/-- Whether texts can be written in a charset. -/
def isWritable : Charset → Bool
  | .utf16be | .utf16le | .replacement => false
  | _ => true

/-- How texts are written in a charset. -/
def coding : Charset → Coding
  | .utf8 => UnitCoding.utf8.coding
  | .singleByte page => page.coding.coding
  | .userDefined => UnitCoding.userDefined.coding
  | .shiftJis => UnitCoding.shiftJis.coding
  | .eucJp => UnitCoding.eucJp.coding
  | .iso2022Jp => .iso2022Jp
  | .gbk => UnitCoding.gbk.coding
  | .gb18030 => UnitCoding.gb18030.coding
  | .big5 => .big5
  | .eucKr => UnitCoding.eucKr.coding
  | .utf16be => .utf16 true
  | .utf16le => .utf16 false
  | .replacement => .replacement

/-- The text of a byte sequence that holds no malformed unit. -/
def decode? (c : Charset) (bytes : List UInt8) : Option (List Char) := c.coding.decode? bytes

/-- The bytes of a text of which every character can be written. -/
def encode? (c : Charset) (text : List Char) : Option (List UInt8) := c.coding.encode? text

end Charset

end ConfigKeys
