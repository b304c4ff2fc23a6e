import HttpChain.Decimal.Shortest
import HttpChain.Text.Ascii

/-!
# HttpChain.Decimal.Layout

How the shortest decimal of a binary64 number is written out.  Two layouts are
in use: documents keep a mark that tells a float from an integer and switch to
an exponent for very large and very small numbers; scalars of a config are
written positionally whatever their size.
-/

namespace HttpChain.Decimal

/-- The digits of a significand with the point `point` places behind its first
digit's left edge. -/
def positional (digits : List Char) (point : Int) : List Char :=
  let n : Int := digits.length
  if n ≤ point then digits ++ List.replicate (point - n).toNat '0'
  else if 0 < point then digits.take point.toNat ++ '.' :: digits.drop point.toNat
  else '0' :: '.' :: (List.replicate (-point).toNat '0' ++ digits)

/-- One digit before the point, and a signed exponent. -/
def exponential (digits : List Char) (point : Int) : List Char :=
  let mantissa := match digits with
    | [] => []
    | [d] => [d]
    | d :: ds => d :: '.' :: ds
  let e := point - 1
  mantissa ++ 'e' :: (if e < 0 then '-' else '+') :: Text.decimal e.natAbs

/-- The form of a float in a document: positional from 10⁻⁵ up to 10¹⁶, with a
fraction even when it is zero, and exponential outside. -/
def documentForm (x : Binary64) : List Char :=
  let s := shortest .toEven x
  let digits := Text.decimal s.significand
  let point : Int := digits.length + s.exponent
  let body :=
    if s.significand = 0 then ['0', '.', '0']
    else if 16 < point || point ≤ -5 then exponential digits point
    else if 0 ≤ s.exponent then positional digits point ++ ['.', '0']
    else positional digits point
  if x.negative then '-' :: body else body

/-- The form of a float scalar: positional, with a fraction only where it has
one. -/
def scalarForm (x : Binary64) : List Char :=
  let s := shortest .up x
  let digits := Text.decimal s.significand
  let body := positional digits (digits.length + s.exponent)
  if x.negative then '-' :: body else body

end HttpChain.Decimal
