import HttpChain.Text.Ascii

/-!
# HttpChain.Text.RunTable

Tables of properties of characters.  A table lists runs of code points from
U+0000 on: a letter for the property, and how long the run is when it is longer
than one.
-/

namespace HttpChain.Text

/-- A run of code points with one property, by its first code point. -/
structure Run where
  first : Nat
  letter : Char
deriving DecidableEq, Inhabited

/-- Runs, from the last. -/
abbrev RunTable := List Run

namespace RunTable

/-- Read runs from a code point on. -/
def readFrom : Nat → Nat → List Char → RunTable → RunTable
  | 0, _, _, runs => runs
  | _ + 1, _, [], runs => runs
  | fuel + 1, first, c :: cs, runs =>
    let digits := cs.takeWhile isDigit
    let length := if digits = [] then 1 else decimalValue digits
    readFrom fuel (first + length) (cs.drop digits.length) (⟨first, c⟩ :: runs)

/-- Read a table, which may be written on several lines. -/
def ofLines (lines : List String) : RunTable :=
  let cs := lines.flatMap String.toList
  readFrom cs.length 0 cs []

/-- The letter of a character. -/
def letter? (t : RunTable) (c : Char) : Option Char :=
  (t.find? fun r => r.first ≤ c.toNat).map Run.letter

end RunTable

end HttpChain.Text
