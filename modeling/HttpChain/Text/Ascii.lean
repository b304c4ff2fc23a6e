/-!
# HttpChain.Text.Ascii

Case folding and character classes that are defined on ASCII alone, as the
grammars of HTTP header names and URLs define them.
-/

namespace HttpChain.Text

/-- Fold the case of ASCII letters and leave every other character. -/
def foldCase (cs : List Char) : List Char := cs.map Char.toLower

/-- Equality up to the case of ASCII letters. -/
def sameName (a b : String) : Bool := foldCase a.toList == foldCase b.toList

/-- Decimal digits `0` to `9`. -/
def isDigit (c : Char) : Bool := '0' ≤ c && c ≤ '9'

/-- The value of a hexadecimal digit in either case. -/
def hexValue? (c : Char) : Option Nat :=
  if '0' ≤ c && c ≤ '9' then some (c.toNat - 48)
  else if 'a' ≤ c && c ≤ 'f' then some (c.toNat - 87)
  else if 'A' ≤ c && c ≤ 'F' then some (c.toNat - 55)
  else none

/-- Hexadecimal digits in either case. -/
def isHexDigit (c : Char) : Bool := (hexValue? c).isSome

/-- The upper-case digit of a value below sixteen. -/
def upperHex (n : Nat) : Char :=
  if n < 10 then Char.ofNat (48 + n) else Char.ofNat (55 + n)

theorem hexValue?_upperHex : ∀ n < 16, hexValue? (upperHex n) = some n := by decide

/-- The lower-case digit of a value below sixteen. -/
def lowerHex (n : Nat) : Char :=
  if n < 10 then Char.ofNat (48 + n) else Char.ofNat (87 + n)

/-- The number that a run of digits denotes in `base`, most significant first. -/
def valueInBase (base : Nat) (digits : List Nat) : Nat :=
  digits.foldl (fun n d => base * n + d) 0

/-- The number that decimal digits denote. -/
def decimalValue (cs : List Char) : Nat := valueInBase 10 (cs.map fun c => c.toNat - 48)

/-- The decimal digits of a natural number, without leading zeros. -/
def decimal (n : Nat) : List Char := Nat.toDigits 10 n

/-- The decimal form of an integer. -/
def signedDecimal : Int → List Char
  | .ofNat n => decimal n
  | .negSucc n => '-' :: decimal (n + 1)

/-- An integer in decimal: an optional sign, then digits only, leading zeros
allowed. -/
def readInteger? : List Char → Option Int
  | '+' :: ds => digits? ds
  | '-' :: ds => (digits? ds).map fun n => -n
  | ds => digits? ds
where
  digits? (ds : List Char) : Option Int :=
    if ds ≠ [] ∧ ds.all isDigit then some (decimalValue ds) else none

/-- The bounds of signed 64-bit integers, -2⁶³ and 2⁶³. -/
def fitsInt64 (n : Int) : Bool := -0x8000000000000000 ≤ n && n < 0x8000000000000000

/-- Everything before the first `sep`, and everything after it. -/
def splitOnce (sep : Char) : List Char → Option (List Char × List Char)
  | [] => none
  | c :: cs =>
    if c = sep then some ([], cs)
    else (splitOnce sep cs).map fun (a, b) => (c :: a, b)

/-- The parts of a text between the places where `sep` stands. -/
def splitAll (sep : Char) : List Char → List (List Char)
  | [] => [[]]
  | c :: cs =>
    if c = sep then [] :: splitAll sep cs
    else match splitAll sep cs with
      | [] => [[c]]
      | p :: ps => (c :: p) :: ps

/-- The rest of a text behind a given start. -/
def after? : List Char → List Char → Option (List Char)
  | [], cs => some cs
  | _ :: _, [] => none
  | p :: ps, c :: cs => if p = c then after? ps cs else none

theorem after?_eq_some_iff {p cs rest : List Char} : after? p cs = some rest ↔ cs = p ++ rest := by
  induction p generalizing cs with
  | nil => simp [after?, eq_comm]
  | cons a p ih =>
    cases cs with
    | nil => simp [after?]
    | cons c cs =>
      rw [after?]
      split
      · next h => simp [ih, h]
      · next h => simp [Ne.symm h]

end HttpChain.Text
