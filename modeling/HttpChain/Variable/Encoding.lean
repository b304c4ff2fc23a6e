import HttpChain.Text.Ascii
import HttpChain.Text.Utf8

/-!
# HttpChain.Variable.Encoding

How a value is written where it is inserted: as it is, or in the form encoding
of query strings, which leaves letters, digits and `*-._`, writes a space as
`+` and every other byte as a percent sign with two upper-case digits.
-/

namespace HttpChain

/-- How inserted values are written. -/
inductive Encoding where
  | plain
  | query
deriving DecidableEq

namespace Encoding

/-- Bytes that the form encoding leaves as they are. -/
def keeps (b : UInt8) : Bool :=
  let c := Char.ofNat b.toNat
  c.isAlphanum || c == '*' || c == '-' || c == '.' || c == '_'

/-- The form encoding of one byte. -/
def queryByte (b : UInt8) : List Char :=
  if keeps b then [Char.ofNat b.toNat]
  else if b == 0x20 then ['+']
  else ['%', Text.upperHex (b.toNat / 16), Text.upperHex (b.toNat % 16)]

/-- The form encoding of a text. -/
def queryForm (cs : List Char) : List Char := (Text.utf8 cs).flatMap queryByte

/-- Write a value. -/
def apply : Encoding → List Char → List Char
  | plain, cs => cs
  | query, cs => queryForm cs

end Encoding

end HttpChain
