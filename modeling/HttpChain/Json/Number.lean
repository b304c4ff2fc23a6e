import HttpChain.Json.Basic
import HttpChain.Text.Ascii

/-!
# HttpChain.Json.Number

Reading the number literals of JSON.  Digits are gathered into a 64-bit word
for as long as it holds them, and the digits behind that only move the decimal
point.  A literal without fraction and exponent whose digits all fit is an
integer; everything else becomes a float by one conversion of the word and one
multiplication or division by a power of ten, each rounded on its own.
-/

namespace HttpChain.Json

/-- A number literal, split into its parts. -/
structure Literal where
  negative : Bool
  whole : List Char
  fraction : Option (List Char)
  exponent : Option (Bool × List Char)

/-- Digits gathered so far, and how many places the point has moved right. -/
structure Gathered where
  word : Nat
  shift : Int

namespace Gathered

/-- Whether one more digit still fits the word. -/
def room (g : Gathered) (c : Char) : Bool := g.word * 10 + (c.toNat - 48) < 0x10000000000000000

/-- Gather the digits before the point; from the first that does not fit on,
each only moves the point. -/
def whole (g : Gathered) : List Char → Gathered
  | [] => g
  | c :: cs =>
    if g.room c then whole ⟨g.word * 10 + (c.toNat - 48), g.shift⟩ cs
    else ⟨g.word, g.shift + (cs.length + 1)⟩

/-- Gather the digits behind the point; from the first that does not fit on,
they are dropped. -/
def fraction (g : Gathered) : List Char → Gathered
  | [] => g
  | c :: cs =>
    if g.room c then fraction ⟨g.word * 10 + (c.toNat - 48), g.shift - 1⟩ cs
    else g

end Gathered

/-- Divide by powers of ten in strides of 308. -/
def scaleDown (x : Binary64) (n : Nat) : Binary64 :=
  if n ≤ 308 then x.overPowerOfTen n
  else if x.magnitude = 0 then x
  else scaleDown (x.overPowerOfTen 308) (n - 308)
termination_by n
decreasing_by omega

/-- The float of gathered digits, or nothing if it is out of range. -/
def scale? (negative : Bool) (word : Nat) (exponent : Int) : Option Binary64 :=
  (Binary64.ofRatio? negative word 1).bind fun x =>
    if exponent < 0 then some (scaleDown x (-exponent).toNat)
    else if exponent ≤ 308 then x.timesPowerOfTen? exponent.toNat
    else if x.magnitude = 0 then some x else none

/-- An exponent of a literal, or nothing if it leaves 32 bits. -/
def readExponent? (digits : List Char) : Option Nat :=
  let n := Text.decimalValue digits
  if n < 0x80000000 then some n else none

/-- The value of a number literal; nothing if it is out of range. -/
def Literal.value? (l : Literal) : Option Json :=
  let g := Gathered.whole ⟨0, 0⟩ l.whole
  let float (g : Gathered) : Option Json :=
    match l.exponent with
    | none => (scale? l.negative g.word g.shift).map .float
    | some (up, digits) =>
      match readExponent? digits with
      | none =>
        if g.word ≠ 0 ∧ up then none else some (.float (Binary64.zero l.negative))
      | some e =>
        (scale? l.negative g.word (if up then g.shift + e else g.shift - e)).map .float
  match l.fraction with
  | some digits => float (g.fraction digits)
  | none =>
    if l.exponent.isSome || g.shift ≠ 0 then float g
    else if l.negative then
      if g.word = 0 || 0x8000000000000000 < g.word then (scale? true g.word 0).map .float
      else Json.ofInt? (-g.word)
    else Json.ofInt? g.word

/-- Split off a literal at the front of a text: an optional minus, digits
without a superfluous zero, and a fraction and an exponent of at least one
digit each. -/
def Literal.read? (cs : List Char) : Option (Literal × List Char) :=
  let (negative, cs) := match cs with
    | '-' :: cs => (true, cs)
    | cs => (false, cs)
  let whole := cs.takeWhile Text.isDigit
  let cs := cs.drop whole.length
  if whole = [] ∨ (1 < whole.length ∧ whole.head? = some '0') then none
  else
    let fractional : Option (Option (List Char) × List Char) := match cs with
      | '.' :: cs =>
        let digits := cs.takeWhile Text.isDigit
        if digits = [] then none else some (some digits, cs.drop digits.length)
      | cs => some (none, cs)
    fractional.bind fun (fraction, cs) =>
      match cs with
      | c :: cs' =>
        if c = 'e' ∨ c = 'E' then
          let (up, cs') := match cs' with
            | '+' :: r => (true, r)
            | '-' :: r => (false, r)
            | r => (true, r)
          let digits := cs'.takeWhile Text.isDigit
          if digits = [] then none
          else some (⟨negative, whole, fraction, some (up, digits)⟩, cs'.drop digits.length)
        else some (⟨negative, whole, fraction, none⟩, cs)
      | [] => some (⟨negative, whole, fraction, none⟩, [])

end HttpChain.Json
