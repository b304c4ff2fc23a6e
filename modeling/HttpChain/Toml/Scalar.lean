import HttpChain.Toml.Basic

/-!
# HttpChain.Toml.Scalar

Numbers, dates and times of TOML.  An underscore may stand between two digits;
a decimal number has no leading zeros; integers take at most 128 bits.
-/

namespace HttpChain.Toml

/-- Whether each underscore stands between two digits. -/
def underscoresFit (isDigit : Char → Bool) : List Char → Bool
  | [] => true
  | [c] => isDigit c
  | c :: '_' :: d :: cs => isDigit c && isDigit d && underscoresFit isDigit (d :: cs)
  | c :: cs => isDigit c && underscoresFit isDigit cs

/-- Digits in a base with underscores between them, without the underscores. -/
def digits? (base : Nat) (cs : List Char) : Option (List Nat) :=
  let isDigit := fun c => match Text.hexValue? c with
    | some d => d < base
    | none => false
  if cs ≠ [] ∧ underscoresFit isDigit cs then (cs.filter (· ≠ '_')).mapM Text.hexValue? else none

/-- Decimal digits that do not start with a superfluous zero. -/
def plainDigits? (cs : List Char) : Option (List Nat) := do
  let ds ← digits? 10 cs
  if ds.head? = some 0 ∧ 1 < ds.length then none else some ds

/-- The bounds of integers, -2¹²⁷ and 2¹²⁸. -/
def integer? (n : Int) : Option Toml :=
  if -0x80000000000000000000000000000000 ≤ n ∧ n < 0x100000000000000000000000000000000 then
    some (.integer n)
  else none

/-- A sign in front of a text. -/
def sign : List Char → Bool × List Char
  | '-' :: cs => (true, cs)
  | '+' :: cs => (false, cs)
  | cs => (false, cs)

/-- The exponent of a float, behind its letter. -/
def exponent? (cs : List Char) : Option Int := do
  let (negative, ds) := sign cs
  let ds ← digits? 10 ds
  let n : Int := Text.valueInBase 10 ds
  pure (if negative then -n else n)

/-- A float of its whole digits, its fraction and its exponent. -/
def float? (negative : Bool) (whole fraction : List Nat) (e : Int) : Option Toml := do
  let digits := Text.valueInBase 10 (whole ++ fraction)
  let x ← Binary64.ofDecimal? negative digits (e - fraction.length)
  pure (.float (.finite x))

/-- Whether a character starts an exponent. -/
def isExponent (c : Char) : Bool := c == 'e' || c == 'E'

/-- A decimal number behind its sign. -/
def decimal? (negative : Bool) (cs : List Char) : Option Toml := do
  let mantissa := cs.takeWhile fun c => !isExponent c
  let e ← match cs.drop mantissa.length with
    | [] => some none
    | _ :: ds => (exponent? ds).map some
  match Text.splitOnce '.' mantissa, e with
  | none, none =>
    let ds ← plainDigits? mantissa
    let n : Int := Text.valueInBase 10 ds
    integer? (if negative then -n else n)
  | none, some e =>
    let ds ← plainDigits? mantissa
    float? negative ds [] e
  | some (a, b), e =>
    let whole ← plainDigits? a
    let fraction ← digits? 10 b
    float? negative whole fraction (e.getD 0)

/-! ## dates and times -/

/-- The number of exactly `n` digits. -/
def fixed? (n : Nat) (cs : List Char) : Option Nat :=
  if cs.length = n ∧ cs.all Text.isDigit then some (Text.decimalValue cs) else none

/-- The days of a month. -/
def daysIn (year month : Nat) : Nat :=
  if month = 2 then if (year % 4 = 0 ∧ year % 100 ≠ 0) ∨ year % 400 = 0 then 29 else 28
  else if month = 4 ∨ month = 6 ∨ month = 9 ∨ month = 11 then 30
  else 31

/-- A date: year, month and day. -/
def isDate (cs : List Char) : Bool :=
  match fixed? 4 (cs.take 4), cs.drop 4 with
  | some year, '-' :: rest =>
    match fixed? 2 (rest.take 2), rest.drop 2 with
    | some month, '-' :: day =>
      match fixed? 2 day with
      | some d => 1 ≤ month && month ≤ 12 && 1 ≤ d && d ≤ daysIn year month
      | none => false
    | _, _ => false
  | _, _ => false

/-- An hour and a minute. -/
def isHourMinute (cs : List Char) : Bool :=
  match fixed? 2 (cs.take 2), cs.drop 2 with
  | some h, ':' :: rest =>
    match fixed? 2 rest with
    | some m => h ≤ 23 && m ≤ 59
    | none => false
  | _, _ => false

/-- A time; seconds and their fraction may be missing. -/
def isTime (cs : List Char) : Bool :=
  isHourMinute (cs.take 5) &&
  match cs.drop 5 with
  | [] => true
  | ':' :: rest =>
    (match fixed? 2 (rest.take 2) with
      | some s => s ≤ 60
      | none => false) &&
    (match rest.drop 2 with
      | [] => true
      | '.' :: fraction => fraction ≠ [] && fraction.all Text.isDigit
      | _ => false)
  | _ => false

/-- A time with its distance from universal time, which may be missing. -/
def isOffsetTime (cs : List Char) : Bool :=
  match cs.getLast? with
  | none => false
  | some z =>
    if z = 'Z' ∨ z = 'z' then isTime cs.dropLast
    else
      let clock := cs.takeWhile fun c => c ≠ '+' && c ≠ '-'
      match cs.drop clock.length with
      | [] => isTime clock
      | _ :: offset => isTime clock && isHourMinute offset

/-- A date, a time, or both with a letter or a space between them. -/
def isMoment (cs : List Char) : Bool :=
  isTime cs || isDate cs ||
  (isDate (cs.take 10) &&
    match cs.drop 10 with
    | t :: rest => (t == 'T' || t == 't' || t == ' ') && isOffsetTime rest
    | [] => false)

/-! ## the whole -/

/-- Characters of a value without quotes and brackets. -/
def isScalarChar (c : Char) : Bool :=
  c.isAlphanum || c == '+' || c == '-' || c == '_' || c == '.' || c == ':'

/-- The value that a text without quotes and brackets stands for. -/
def scalar? (cs : List Char) : Option Toml :=
  let (negative, unsigned) := sign cs
  match String.ofList unsigned with
  | "true" => if unsigned = cs then some (.bool true) else none
  | "false" => if unsigned = cs then some (.bool false) else none
  | "inf" => some (.float (.infinite negative))
  | "nan" => some (.float .notANumber)
  | _ =>
    if isMoment cs then some (.time (String.ofList cs))
    else
      let inBase (base : Nat) (ds : List Char) : Option Toml :=
        if unsigned = cs then (digits? base ds).bind fun ds => integer? (Text.valueInBase base ds)
        else none
      match unsigned with
      | '0' :: 'x' :: ds => inBase 16 ds
      | '0' :: 'o' :: ds => inBase 8 ds
      | '0' :: 'b' :: ds => inBase 2 ds
      | ds => decimal? negative ds

end HttpChain.Toml
