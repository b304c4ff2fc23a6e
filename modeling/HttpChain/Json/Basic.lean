import HttpChain.Assoc
import HttpChain.Decimal.Binary64

/-!
# HttpChain.Json.Basic

JSON values.  Integers that fit a signed or an unsigned 64-bit word are kept
exactly, every other number is a binary64 float; an object keeps its members
in the order of their names.
-/

namespace HttpChain

/-- An integer that fits a signed or an unsigned 64-bit word, from -2⁶³ on and
below 2⁶⁴. -/
structure WordInt where
  val : Int
  fits : -0x8000000000000000 ≤ val ∧ val < 0x10000000000000000
deriving DecidableEq

instance : Inhabited WordInt := ⟨⟨0, by decide⟩⟩

/-- A JSON value. -/
inductive Json where
  | null
  | bool (b : Bool)
  | integer (n : WordInt)
  | float (x : Binary64)
  | string (s : String)
  | array (items : List Json)
  | object (members : List (String × Json))
deriving Inhabited

namespace Json

/-- The integer of a word, as a value. -/
def ofInt? (n : Int) : Option Json :=
  if h : -0x8000000000000000 ≤ n ∧ n < 0x10000000000000000 then some (.integer ⟨n, h⟩) else none

/-- The member of an object at a name. -/
def member? (name : String) : Json → Option Json
  | object members => Assoc.find? name members
  | _ => none

/-- The values directly below a value: elements in order, members by name. -/
def children : Json → List Json
  | array items => items
  | object members => members.map Prod.snd
  | _ => []

end Json

end HttpChain
