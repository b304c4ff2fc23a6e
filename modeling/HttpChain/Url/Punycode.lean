import HttpChain.Text.Ascii

/-!
# HttpChain.Url.Punycode

The ASCII form of labels outside ASCII (RFC 3492): the ASCII characters of a
label, a hyphen, and the other characters as deltas in generalized
variable-length integers.
-/

namespace HttpChain.Punycode

/-- The digit of a value below 36. -/
def digit (n : Nat) : Char := if n < 26 then Char.ofNat (97 + n) else Char.ofNat (22 + n)

/-- The value of a digit. -/
def digitValue? (c : Char) : Option Nat :=
  if 'a' ≤ c && c ≤ 'z' then some (c.toNat - 97)
  else if 'A' ≤ c && c ≤ 'Z' then some (c.toNat - 65)
  else if '0' ≤ c && c ≤ '9' then some (c.toNat - 22)
  else none

/-- The threshold of the digit at a position, for a bias. -/
def threshold (k bias : Nat) : Nat :=
  if k ≤ bias + 1 then 1 else if bias + 26 ≤ k then 26 else k - bias

/-- Divide by 35 until at most 455 is left, counting steps of 36. -/
def settle (delta k : Nat) : Nat :=
  if 455 < delta then settle (delta / 35) (k + 36) else k + 36 * delta / (delta + 38)
termination_by delta

/-- The bias behind a delta. -/
def adapt (delta points : Nat) (first : Bool) : Nat :=
  let d := if first then delta / 700 else delta / 2
  settle (d + d / points) 0

/-- The digits of a delta. -/
def deltaDigits : Nat → Nat → Nat → Nat → List Char
  | 0, _, _, _ => []
  | fuel + 1, q, k, bias =>
    let t := threshold k bias
    if q < t then [digit q]
    else digit (t + (q - t) % (36 - t)) :: deltaDigits fuel ((q - t) / (36 - t)) (k + 36) bias

/-- The state of encoding: the delta so far, the bias, and how many characters
have been written. -/
structure Progress where
  delta : Nat
  bias : Nat
  written : Nat
  out : List Char

/-- One pass over a label for the code point `n`. -/
def pass (n basic : Nat) (label : List Char) (p : Progress) : Progress :=
  label.foldl (fun p c =>
    if c.toNat < n then { p with delta := p.delta + 1 }
    else if c.toNat = n then
      { delta := 0
        bias := adapt p.delta (p.written + 1) (p.written == basic)
        written := p.written + 1
        out := p.out ++ deltaDigits 40 p.delta 36 p.bias }
    else p) p

/-- The code points of a label from 128 on, ascending. -/
def extended (label : List Char) : List Nat :=
  (((label.map Char.toNat).filter (128 ≤ ·)).mergeSort (· ≤ ·)).eraseDups

/-- Encode a label. -/
def encode (label : List Char) : List Char :=
  let ascii := label.filter fun c => c.toNat < 128
  let basic := ascii.length
  let start : List Char := if basic = 0 then [] else ascii ++ ['-']
  let next (acc : Nat × Progress) (m : Nat) : Nat × Progress :=
    let p := acc.2
    let p := pass m basic label { p with delta := p.delta + (m - acc.1) * (p.written + 1) }
    (m + 1, { p with delta := p.delta + 1 })
  ((extended label).foldl next (128, ⟨0, 72, basic, start⟩)).2.out

/-- The integer at the front of digits, and the digits behind it. -/
def integer? : List Char → Nat → Nat → Nat → Nat → Option (Nat × List Char)
  | [], _, _, _, _ => none
  | c :: cs, i, w, k, bias => do
    let d ← digitValue? c
    let i := i + d * w
    let t := threshold k bias
    if 0x100000000 ≤ i then none
    else if d < t then some (i, cs)
    else integer? cs i (w * (36 - t)) (k + 36) bias

/-- Insert the characters that digits describe. -/
def insertAll : Nat → List Char → Nat → Nat → Nat → List Char → Option (List Char)
  | 0, _, _, _, _, _ => none
  | fuel + 1, cs, n, i, bias, out =>
    if cs = [] then some out
    else do
      let (j, rest) ← integer? cs i 1 36 bias
      let size := out.length + 1
      let n := n + j / size
      if 0x10FFFF < n ∨ (0xD800 ≤ n ∧ n < 0xE000) then none
      else
        let place := j % size
        insertAll fuel rest n (place + 1) (adapt (j - i) size (i == 0))
          (out.take place ++ Char.ofNat n :: out.drop place)

/-- Decode a label. -/
def decode? (label : List Char) : Option (List Char) :=
  let tail := (label.reverse.takeWhile (· ≠ '-')).reverse
  let head := label.take (label.length - tail.length - 1)
  if label.any fun c => 128 ≤ c.toNat then none
  else insertAll (tail.length + 1) tail 128 0 72 head

end HttpChain.Punycode
