/-!
# HttpChain.Decimal.Binary64

Finite binary64 numbers in exact arithmetic.  A magnitude is kept as its bit
pattern without the sign, which orders magnitudes as their values do; `units`
gives the value as a count of 2⁻¹⁰⁷⁴, the smallest positive number.  Every
operation rounds an exact ratio once, to the nearest pattern and to the even
one of two equally near.
-/

namespace HttpChain

/-- A finite binary64 number: its sign, and its bit pattern without the sign,
below that of infinity. -/
structure Binary64 where
  negative : Bool
  magnitude : Nat
  finite : magnitude < 0x7FF0000000000000
deriving DecidableEq

namespace Binary64

instance : Inhabited Binary64 := ⟨⟨false, 0, by decide⟩⟩

/-- Zero with a sign. -/
def zero (negative : Bool) : Binary64 := ⟨negative, 0, by decide⟩

/-- The number of patterns from a power of two up to the next, 2⁵². -/
def binade : Nat := 0x10000000000000

/-- The value of a pattern as a count of 2⁻¹⁰⁷⁴. -/
def unitsOf (pattern : Nat) : Nat :=
  let exponent := pattern / binade
  let fraction := pattern % binade
  if exponent = 0 then fraction else (binade + fraction) * Nat.pow 2 (exponent - 1)

/-- The absolute value as a count of 2⁻¹⁰⁷⁴. -/
def units (x : Binary64) : Nat := unitsOf x.magnitude

/-- The signed value as a count of 2⁻¹⁰⁷⁴. -/
def signedUnits (x : Binary64) : Int := if x.negative then -x.units else x.units

/-- The quotient rounded to the nearest integer, a half to the even one. -/
def divideToEven (num den : Nat) : Nat :=
  let q := num / den
  let r := num % den
  if 2 * r < den then q
  else if den < 2 * r then q + 1
  else if q % 2 = 0 then q else q + 1

/-- The pattern nearest to `num / den`; from that of infinity on it stands for a
value that is out of range. -/
def nearestPattern (num den : Nat) : Nat :=
  let scaled := num * Nat.pow 2 1074
  let shift := Nat.log2 (scaled / den) - 52
  shift * binade + divideToEven scaled (den * Nat.pow 2 shift)

/-- The number nearest to `num / den`, unless it is out of range. -/
def ofRatio? (negative : Bool) (num den : Nat) : Option Binary64 :=
  let p := nearestPattern num den
  if h : p < 0x7FF0000000000000 then some ⟨negative, p, h⟩ else none

/-- The number nearest to `digits * 10 ^ exponent`.  Exponents far outside the
range are decided without computing the power. -/
def ofDecimal? (negative : Bool) (digits : Nat) (exponent : Int) : Option Binary64 :=
  let top : Int := (Nat.toDigits 10 digits).length + exponent
  if digits = 0 || top < -330 then some (zero negative)
  else if 310 < top then none
  else if 0 ≤ exponent then ofRatio? negative (digits * Nat.pow 10 exponent.toNat) 1
  else ofRatio? negative digits (Nat.pow 10 (-exponent).toNat)

/-- The number nearest to a power of ten, as a count of 2⁻¹⁰⁷⁴. -/
def powerOfTenUnits (n : Nat) : Nat := unitsOf (nearestPattern (Nat.pow 10 n) 1)

/-- Multiply by the number nearest to `10 ^ n`. -/
def timesPowerOfTen? (x : Binary64) (n : Nat) : Option Binary64 :=
  ofRatio? x.negative (x.units * powerOfTenUnits n) (Nat.pow 2 2148)

/-- Divide by the number nearest to `10 ^ n`. -/
def overPowerOfTen (x : Binary64) (n : Nat) : Binary64 :=
  (ofRatio? x.negative x.units (powerOfTenUnits n)).getD (zero x.negative)

end Binary64

end HttpChain
