import HttpChain.Comparison
import HttpChain.Json.Basic

/-!
# HttpChain.JsonPath.Basic

Queries on JSON documents.  A query starts at the document or at the value that
a filter looks at and goes on in segments, each of which selects children of
the values reached so far, or of all values below them.
-/

namespace HttpChain.JsonPath

/-- A step to one child: a member or an element, counted from the end if it is
negative. -/
inductive Step where
  | name (s : String)
  | index (i : Int)
deriving DecidableEq

/-- The functions that filters may call. -/
inductive Function where
  | length
  | count
  | value
  | search
  | matching
  | isIn
  | notIn
  | noneOf
  | anyOf
  | subsetOf
deriving DecidableEq

namespace Function

/-- The name of a function. -/
def name : Function → String
  | length => "length"
  | count => "count"
  | value => "value"
  | search => "search"
  | matching => "match"
  | isIn => "in"
  | notIn => "nin"
  | noneOf => "none_of"
  | anyOf => "any_of"
  | subsetOf => "subset_of"

/-- Every function. -/
def all : List Function :=
  [length, count, value, search, matching, isIn, notIn, noneOf, anyOf, subsetOf]

/-- How many arguments a function takes. -/
def arity : Function → Nat
  | length => 1
  | count => 1
  | value => 1
  | _ => 2

/-- Whether a function yields a value to compare and not a truth value. -/
def isComparable (f : Function) : Bool := f.arity == 1

end Function

mutual

/-- What a segment selects of a value. -/
inductive Selector where
  | name (s : String)
  | wildcard
  | index (i : Int)
  | slice (first last step : Option Int)
  | filter (c : Condition)

/-- A condition on a value. -/
inductive Condition where
  | any (cs : List Condition)
  | all (cs : List Condition)
  | negated (c : Condition)
  | found (q : Query)
  | call (f : Function) (args : List Argument)
  | comparison (c : Comparison) (left right : Argument)

/-- A query, from the document or from the value at hand. -/
inductive Query where
  | mk (absolute : Bool) (segments : List Segment)

/-- A segment; a deep one starts at all values below the ones reached. -/
inductive Segment where
  | mk (deep : Bool) (selectors : List Selector)

/-- An argument of a function, or an operand of a comparison. -/
inductive Argument where
  | literal (v : Json)
  | query (q : Query)
  | call (f : Function) (args : List Argument)
  | condition (c : Condition)

end

/-- The query of single steps. -/
def Query.ofSteps (absolute : Bool) (steps : List Step) : Query :=
  .mk absolute (steps.map fun
    | .name s => .mk false [.name s]
    | .index i => .mk false [.index i])

end HttpChain.JsonPath
