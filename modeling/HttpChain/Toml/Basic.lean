import HttpChain.Decimal.Layout

/-!
# HttpChain.Toml.Basic

TOML values.  A table is a list of entries in the order in which they are
written; a document is a table.
-/

namespace HttpChain

/-- A TOML float. -/
inductive TomlFloat where
  | finite (x : Binary64)
  | infinite (negative : Bool)
  | notANumber
deriving DecidableEq, Inhabited

/-- A TOML value; dates and times are kept as they are written. -/
inductive Toml where
  | string (s : String)
  | integer (n : Int)
  | float (x : TomlFloat)
  | bool (b : Bool)
  | time (text : String)
  | array (items : List Toml)
  | table (entries : List (String × Toml))
deriving Inhabited

namespace Toml

/-- The value of a key in the entries of a table. -/
def valueAt? (name : String) : List (String × Toml) → Option Toml
  | [] => none
  | (k, v) :: rest => if k = name then some v else valueAt? name rest

/-- The text of a float: the fewest digits that read back, without exponent. -/
def floatText : TomlFloat → String
  | .finite x => String.ofList (Decimal.scalarForm x)
  | .infinite false => "inf"
  | .infinite true => "-inf"
  | .notANumber => "NaN"

/-- Characters of keys that need no quotes. -/
def isBareKeyChar (c : Char) : Bool := c.isAlphanum || c == '-' || c == '_'

end Toml

end HttpChain
