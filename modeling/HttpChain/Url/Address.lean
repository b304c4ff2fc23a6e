import HttpChain.Url.Basic

/-!
# HttpChain.Url.Address

Addresses in the place of host names: IPv4 as one to four numbers in decimal,
octal or hexadecimal, IPv6 as eight groups in brackets, where one run of zero
groups may be left out and the last two may be written as an IPv4 address.
-/

namespace HttpChain.Url

/-! ## IPv4 -/

/-- The digits of a number in `base`, if all characters are such digits. -/
def digitsIn? (base : Nat) (cs : List Char) : Option Nat := do
  let ds ← cs.mapM Text.hexValue?
  if ds.all (· < base) then some (Text.valueInBase base ds) else none

/-- A number: hexadecimal behind `0x`, octal behind `0`, decimal otherwise. -/
def ipv4Number? : List Char → Option Nat
  | [] => none
  | '0' :: 'x' :: cs => digitsIn? 16 cs
  | '0' :: 'X' :: cs => digitsIn? 16 cs
  | '0' :: c :: cs => digitsIn? 8 (c :: cs)
  | cs => digitsIn? 10 cs

/-- The labels of a name without an empty last one. -/
def labels (name : List Char) : List (List Char) :=
  let ls := Text.splitAll '.' name
  if ls.getLast? = some [] ∧ 1 < ls.length then ls.dropLast else ls

/-- A name whose last label is a number can only be an address. -/
def endsInNumber (name : List Char) : Bool :=
  match (labels name).getLast? with
  | some l => (l ≠ [] && l.all Text.isDigit) || (ipv4Number? l).isSome
  | none => false

/-- An address of numbers: each but the last is one byte, and the last fills
the bytes that are left. -/
def ipv4OfNumbers? (ns : List Nat) : Option Nat :=
  match ns.getLast? with
  | none => none
  | some last =>
    let heads := ns.dropLast
    if heads.all (· ≤ 255) ∧ last < Nat.pow 256 (4 - heads.length) ∧ heads.length < 4 then
      some (Text.valueInBase 256 heads * Nat.pow 256 (4 - heads.length) + last)
    else none

/-- A name as an IPv4 address. -/
def ipv4? (name : List Char) : Option Nat :=
  ((labels name).mapM ipv4Number?).bind ipv4OfNumbers?

/-! ## IPv6 -/

/-- A group of one to four hexadecimal digits. -/
def group? (cs : List Char) : Option Nat :=
  if cs ≠ [] ∧ cs.length ≤ 4 then digitsIn? 16 cs else none

/-- A byte in decimal without leading zeros. -/
def byte? (cs : List Char) : Option Nat :=
  if cs.head? = some '0' ∧ cs.length ≠ 1 then none
  else if cs = [] ∨ !cs.all Text.isDigit then none
  else if Text.decimalValue cs ≤ 255 then some (Text.decimalValue cs) else none

/-- Two groups written as four bytes with points between them. -/
def dotted? (cs : List Char) : Option (List Nat) := do
  let bs ← (Text.splitAll '.' cs).mapM byte?
  match bs with
  | [a, b, c, d] => some [256 * a + b, 256 * c + d]
  | _ => none

/-- Groups with colons between them; only where `tail` holds may the last two be
written as bytes. -/
def groups? (tail : Bool) (cs : List Char) : Option (List Nat) :=
  if cs = [] then some []
  else
    let parts := Text.splitAll ':' cs
    match parts.getLast? with
    | none => none
    | some last => do
      let front ← parts.dropLast.mapM group?
      let back ← if tail && last.contains '.' then dotted? last else (group? last).map ([·])
      pure (front ++ back)

/-- Split at the first two colons in a row. -/
def splitGap : List Char → Option (List Char × List Char)
  | [] => none
  | ':' :: ':' :: cs => some ([], cs)
  | c :: cs => (splitGap cs).map fun (a, b) => (c :: a, b)

/-- The groups of an address, without its brackets. -/
def ipv6? (cs : List Char) : Option (List Nat) :=
  match splitGap cs with
  | none => do
    let gs ← groups? true cs
    if gs.length = 8 then some gs else none
  | some (a, b) => do
    let front ← groups? false a
    let back ← groups? true b
    if front.length + back.length ≤ 7 then
      some (front ++ List.replicate (8 - front.length - back.length) 0 ++ back)
    else none

end HttpChain.Url
