import Autoresponder.Text.Utf8
/-!
# Character sets

An encoded word names the character set of its bytes by a label. There are many sets, and which of
them a reader of mail knows is left open.

1. `Charsets` is what a reader makes of the bytes under a label. Everything that reads a value
   depends on it.
2. A reader is `Lawful` if it knows UTF-8 and makes no text that is longer than its bytes.
3. `Charsets.common` knows UTF-8 and windows-1252, with the labels that the WHATWG encoding standard
   gives them. ASCII and Latin-1 are read as windows-1252, which agrees with them wherever they
   define a character.
-/

namespace Autoresponder

/-! ## 1. Readers -/

class Charsets where
  /-- The text of the bytes in the set with this label; there is none if the label is not known. -/
  decode? (label : Text) (bytes : Bytes) : Option Text

/-! ## 2. Laws -/

/-- What holds of every reader. -/
structure Charsets.Lawful (charsets : Charsets) : Prop where
  /-- Text that was written in UTF-8 is read as it was. -/
  utf8 (s : Text) : charsets.decode? ['U', 'T', 'F', '-', '8'] (Utf8.encode s) = some s
  /-- A character takes a byte at least. -/
  length_le {label : Text} {bytes : Bytes} {t : Text} (h : charsets.decode? label bytes = some t) :
    t.length ≤ bytes.length

/-! ## 3. Two sets -/

inductive Charset where
  | utf8
  | windows1252
  deriving DecidableEq, Repr

namespace Charset

def utf8Labels : List String :=
  ["unicode-1-1-utf-8", "unicode11utf8", "unicode20utf8", "utf-8", "utf8", "x-unicode20utf8"]

def windows1252Labels : List String :=
  ["ansi_x3.4-1968", "ascii", "cp1252", "cp819", "csisolatin1", "ibm819", "iso-8859-1",
    "iso-ir-100", "iso8859-1", "iso88591", "iso_8859-1", "iso_8859-1:1987", "l1", "latin1",
    "us-ascii", "windows-1252", "x-cp1252"]

/-- A blank that may stand around a label. -/
def isLabelBlank (c : Char) : Bool :=
  c == '\t' || c == '\n' || c == '\x0c' || c == '\r' || c == ' '

/-- The character set of a label, in whatever case and with blanks around it. -/
def ofLabel? (label : Text) : Option Charset :=
  let name := Text.foldCase (Text.dropEndWhile isLabelBlank (label.dropWhile isLabelBlank))
  if utf8Labels.any (·.toList == name) then some .utf8
  else if windows1252Labels.any (·.toList == name) then some .windows1252
  else none

/-- The characters of the bytes 0x80 to 0x9F; five of them are control characters. -/
def windows1252High : List Nat := [
  0x20AC, 0x81, 0x201A, 0x0192, 0x201E, 0x2026, 0x2020, 0x2021, 0x02C6, 0x2030, 0x0160, 0x2039,
  0x0152, 0x8D, 0x017D, 0x8F, 0x90, 0x2018, 0x2019, 0x201C, 0x201D, 0x2022, 0x2013, 0x2014,
  0x02DC, 0x2122, 0x0161, 0x203A, 0x0153, 0x9D, 0x017E, 0x0178]

def windows1252Char (b : UInt8) : Char :=
  let n := b.toNat
  Char.ofNat (if 0x80 ≤ n && n < 0xA0 then windows1252High.getD (n - 0x80) n else n)

/-- The text of any bytes; ill-formed UTF-8 becomes U+FFFD. -/
def decode : Charset → Bytes → Text
  | .utf8, bytes => Utf8.decodeLossy bytes
  | .windows1252, bytes => bytes.map windows1252Char

end Charset

instance Charsets.common : Charsets where
  decode? label bytes := (Charset.ofLabel? label).map fun charset => charset.decode bytes

end Autoresponder
