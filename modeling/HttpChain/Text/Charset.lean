import HttpChain.Text.Ascii
import HttpChain.Text.Utf8

/-!
# HttpChain.Text.Charset

The character sets that a body may be written in, by their labels.  A byte
order mark in front of a text decides over any label, and malformed parts read
as U+FFFD.
-/

namespace HttpChain.Text

/-- A character set. -/
inductive Charset where
  | utf8
  | windows1252
  | utf16 (bigEndian : Bool)
deriving DecidableEq, Inhabited

namespace Charset

/-- The labels of UTF-8. -/
def utf8Labels : List String :=
  ["utf-8", "utf8", "unicode-1-1-utf-8", "unicode11utf8", "unicode20utf8", "x-unicode20utf8"]

/-- The labels of windows-1252, which is also what ASCII and Latin 1 are read
as. -/
def windows1252Labels : List String :=
  ["windows-1252", "x-cp1252", "cp1252", "ascii", "us-ascii", "ansi_x3.4-1968", "latin1", "l1",
    "csisolatin1", "iso-8859-1", "iso8859-1", "iso88591", "iso_8859-1", "iso_8859-1:1987",
    "iso-ir-100", "cp819", "ibm819"]

/-- The labels of UTF-16 with the low byte first. -/
def utf16Labels : List String :=
  ["utf-16", "utf-16le", "csunicode", "iso-10646-ucs-2", "ucs-2", "unicode", "unicodefeff"]

/-- The character set of a label, in any case and with any blanks around it. -/
def ofLabel? (label : String) : Option Charset :=
  let isSpace := fun c => c == ' ' || c == '\t' || c == '\n' || c == '\x0c' || c == '\r'
  let cs := (label.toList.dropWhile isSpace).reverse.dropWhile isSpace
  let name := String.ofList (foldCase cs.reverse)
  if utf8Labels.contains name then some utf8
  else if windows1252Labels.contains name then some windows1252
  else if utf16Labels.contains name then some (utf16 false)
  else if name = "utf-16be" ∨ name = "unicodefffe" then some (utf16 true)
  else none

/-- The characters of windows-1252 from 0x80 to 0x9F. -/
def windows1252Specials : List Nat :=
  [0x20AC, 0x81, 0x201A, 0x192, 0x201E, 0x2026, 0x2020, 0x2021, 0x2C6, 0x2030, 0x160, 0x2039, 0x152,
    0x8D, 0x17D, 0x8F, 0x90, 0x2018, 0x2019, 0x201C, 0x201D, 0x2022, 0x2013, 0x2014, 0x2DC, 0x2122,
    0x161, 0x203A, 0x153, 0x9D, 0x17E, 0x178]

/-- The character of a byte of windows-1252. -/
def windows1252Char (b : UInt8) : Char :=
  let n := b.toNat
  Char.ofNat (if 0x80 ≤ n ∧ n < 0xA0 then windows1252Specials.getD (n - 0x80) n else n)

/-- The units of UTF-16; a byte too many stands for no unit. -/
def units (bigEndian : Bool) : List UInt8 → List (Option Nat)
  | a :: b :: bs =>
    some (if bigEndian then a.toNat * 256 + b.toNat else b.toNat * 256 + a.toNat) ::
      units bigEndian bs
  | [_] => [none]
  | [] => []

/-- The characters of units of UTF-16. -/
def ofUnits : List (Option Nat) → List Char
  | some a :: some b :: us =>
    if 0xD800 ≤ a ∧ a < 0xDC00 then
      if 0xDC00 ≤ b ∧ b < 0xE000 then
        Char.ofNat (0x10000 + (a - 0xD800) * 0x400 + (b - 0xDC00)) :: ofUnits us
      else '\uFFFD' :: ofUnits (some b :: us)
    else if 0xDC00 ≤ a ∧ a < 0xE000 then '\uFFFD' :: ofUnits (some b :: us)
    else Char.ofNat a :: ofUnits (some b :: us)
  | some a :: us =>
    if 0xD800 ≤ a ∧ a < 0xDC00 then ['\uFFFD']
    else (if 0xDC00 ≤ a ∧ a < 0xE000 then '\uFFFD' else Char.ofNat a) :: ofUnits us
  | none :: us => '\uFFFD' :: ofUnits us
  | [] => []

/-- The text of bytes in a character set. -/
def decodePlain (bs : List UInt8) : Charset → String
  | utf8 => decodeLossy bs
  | windows1252 => String.ofList (bs.map windows1252Char)
  | utf16 bigEndian => String.ofList (ofUnits (units bigEndian bs))

/-- The text of bytes in a character set, unless a byte order mark says that
they are in another one. -/
def decode (c : Charset) : List UInt8 → String
  | 0xEF :: 0xBB :: 0xBF :: bs => decodePlain bs utf8
  | 0xFE :: 0xFF :: bs => decodePlain bs (utf16 true)
  | 0xFF :: 0xFE :: bs => decodePlain bs (utf16 false)
  | bs => decodePlain bs c

end Charset

end HttpChain.Text
