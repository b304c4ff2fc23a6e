import HttpChain.Decimal.Binary64

/-!
# HttpChain.Decimal.Shortest

The shortest decimal that reads back as a given binary64 number.  The reals
that round to a number form an interval, closed when the pattern is even.  On
the grid of decimals with 1, 2, … 17 digits only the two neighbours of the
number can lie in it first; the first grid with a hit wins, and of two hits the
nearer.
-/

namespace HttpChain.Decimal

/-- A decimal number: `significand * 10 ^ exponent`. -/
structure Scientific where
  significand : Nat
  exponent : Int
deriving DecidableEq, Inhabited

/-- Which of two equally near decimals is taken. -/
inductive Tie where
  | toEven
  | up
deriving DecidableEq

/-- Move factors of ten from the significand into the exponent. -/
def Scientific.normalize (x : Scientific) : Scientific :=
  go x.significand.log2 x
where
  go : Nat → Scientific → Scientific
    | 0, x => x
    | fuel + 1, x =>
      if x.significand ≠ 0 ∧ x.significand % 10 = 0 then go fuel ⟨x.significand / 10, x.exponent + 1⟩
      else x

/-- The reals that round to a pattern, as counts of 2⁻¹⁰⁷⁶: the two ends, and
whether they belong to it. -/
structure Interval where
  low : Nat
  high : Nat
  closed : Bool

/-- The interval around a positive pattern.  Below a power of two the patterns
lie twice as dense. -/
def Interval.around (pattern : Nat) : Interval :=
  let value := 4 * Binary64.unitsOf pattern
  let exponent := pattern / Binary64.binade
  let unit := Nat.pow 2 (exponent - 1)
  let below := if pattern % Binary64.binade = 0 ∧ 1 < exponent then unit else 2 * unit
  ⟨value - below, value + 2 * unit, pattern % 2 = 0⟩

/-- Whether `num / den` counts of 2⁻¹⁰⁷⁶ lie in the interval. -/
def Interval.holds (i : Interval) (num den : Nat) : Bool :=
  if i.closed then i.low * den ≤ num && num ≤ i.high * den
  else i.low * den < num && num < i.high * den

/-- The exponent `k` with `10 ^ (k - 1) ≤ value < 10 ^ k` for a positive value
in counts of 2⁻¹⁰⁷⁶. -/
def decimalPoint (value : Nat) : Int :=
  let one := Nat.pow 2 1076
  if one ≤ value then (Nat.toDigits 10 (value / one)).length
  else 1 - (Nat.toDigits 10 (one / value)).length

/-- The best decimal on the grid of multiples of `10 ^ exponent`, if one lies in
the interval. -/
def onGrid? (tie : Tie) (value : Nat) (i : Interval) (exponent : Int) : Option Scientific :=
  -- a grid point `d` is `d * num / den` counts of 2⁻¹⁰⁷⁶
  let one := Nat.pow 2 1076
  let num := if 0 ≤ exponent then Nat.pow 10 exponent.toNat * one else one
  let den := if 0 ≤ exponent then 1 else Nat.pow 10 (-exponent).toNat
  let d := value * den / num
  let below := i.holds (d * num) den
  let above := i.holds ((d + 1) * num) den
  let rest := value * den - d * num
  let takeBelow :=
    if 2 * rest < num then true
    else if num < 2 * rest then false
    else match tie with
      | .toEven => d % 2 = 0
      | .up => false
  if below && (takeBelow || !above) then some ⟨d, exponent⟩
  else if above then some ⟨d + 1, exponent⟩
  else none

/-- The shortest decimal for a positive pattern; seventeen digits always
suffice. -/
def shortestOf (tie : Tie) (pattern : Nat) : Scientific :=
  let value := 4 * Binary64.unitsOf pattern
  let i := Interval.around pattern
  let point := decimalPoint value
  ((List.range 17).findSome? fun n => onGrid? tie value i (point - (n + 1 : Nat))).getD ⟨0, 0⟩

/-- The shortest decimal that reads back as the absolute value of a number. -/
def shortest (tie : Tie) (x : Binary64) : Scientific :=
  if x.magnitude = 0 then ⟨0, 0⟩ else (shortestOf tie x.magnitude).normalize

end HttpChain.Decimal
