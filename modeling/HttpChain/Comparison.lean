import HttpChain.Text.Ascii
import HttpChain.Text.Blank

/-!
# HttpChain.Comparison

Comparing two texts.  Texts that both are signed 64-bit integers are compared
as numbers, all others by their code points.
-/

namespace HttpChain

/-- A comparison. -/
inductive Comparison where
  | equal
  | notEqual
  | atMost
  | atLeast
  | less
  | greater
deriving DecidableEq

namespace Comparison

/-- The sign of a comparison. -/
def symbol : Comparison → String
  | equal => "=="
  | notEqual => "!="
  | atMost => "<="
  | atLeast => ">="
  | less => "<"
  | greater => ">"

/-- Every comparison. -/
def all : List Comparison := [equal, notEqual, atMost, atLeast, less, greater]

/-- The comparison that a text names, apart from blanks around it. -/
def ofText? (text : String) : Option Comparison :=
  all.find? fun c => c.symbol = Text.strip text

/-- A text names the comparison whose sign it is, apart from blanks around it. -/
theorem ofText?_eq_some_iff {text : String} {c : Comparison} :
    ofText? text = some c ↔ Text.strip text = c.symbol := by
  constructor
  · intro h
    have hsymbol := List.find?_some h
    simpa using (of_decide_eq_true hsymbol).symm
  · intro h
    rw [ofText?, h]
    cases c <;> rfl

/-- Whether a comparison holds of operands in a given order. -/
def holdsOf : Comparison → Ordering → Bool
  | equal, o => o == .eq
  | notEqual, o => o != .eq
  | atMost, o => o != .gt
  | atLeast, o => o != .lt
  | less, o => o == .lt
  | greater, o => o == .gt

/-- A text as a signed 64-bit integer. -/
def integer? (text : String) : Option Int :=
  (Text.readInteger? text.toList).filter fun n => Text.fitsInt64 n

/-- How two operands are ordered. -/
def order (left right : String) : Ordering :=
  match integer? left, integer? right with
  | some a, some b => compareOfLessAndEq a b
  | _, _ => compareOfLessAndEq left right

/-- Whether a comparison holds of two operands. -/
def compare (c : Comparison) (left right : String) : Bool := c.holdsOf (order left right)

end Comparison

end HttpChain
