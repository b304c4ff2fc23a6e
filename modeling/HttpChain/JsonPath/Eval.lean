import HttpChain.JsonPath.Basic
import HttpChain.Text.Regex

/-!
# HttpChain.JsonPath.Eval

The values that a query selects, in order and with repetitions.  A filter holds
of a value when the query in it finds something, or when the comparison in it
holds; numbers are compared as binary64 numbers.
-/

namespace HttpChain

namespace Json

mutual

/-- Equality of values; integers and floats are never equal. -/
def same : Json → Json → Bool
  | null, null => true
  | bool a, bool b => a == b
  | integer a, integer b => a == b
  | float a, float b => a.signedUnits == b.signedUnits
  | string a, string b => a == b
  | array as, array bs => sameItems as bs
  | object as, object bs => sameMembers as bs
  | _, _ => false

/-- Equality of elements. -/
def sameItems : List Json → List Json → Bool
  | [], [] => true
  | a :: as, b :: bs => same a b && sameItems as bs
  | _, _ => false

/-- Equality of members. -/
def sameMembers : List (String × Json) → List (String × Json) → Bool
  | [], [] => true
  | (k, a) :: as, (l, b) :: bs => k == l && same a b && sameMembers as bs
  | _, _ => false

end

/-- A number as a binary64 number. -/
def number? : Json → Option Binary64
  | integer n => Binary64.ofRatio? (n.val < 0) n.val.natAbs 1
  | float x => some x
  | _ => none

mutual

/-- The containers among a value and the values below it, each in front of the
ones below it. -/
def containers : Json → List Json
  | array items => array items :: itemContainers items
  | object members => object members :: memberContainers members
  | _ => []

/-- The containers among elements and below them. -/
def itemContainers : List Json → List Json
  | [] => []
  | v :: vs => containers v ++ itemContainers vs

/-- The containers among members and below them. -/
def memberContainers : List (String × Json) → List Json
  | [] => []
  | (_, v) :: ms => containers v ++ memberContainers ms

end

end Json

namespace JsonPath

/-- What a query has reached: nothing, one value, or the values of a selection
that may have any number of them. -/
inductive Reached where
  | nothing
  | one (v : Json)
  | many (vs : List Json)

namespace Reached

/-- The values reached. -/
def toList : Reached → List Json
  | nothing => []
  | one v => [v]
  | many vs => vs

/-- Go on from each value. -/
def bind (r : Reached) (f : Json → Reached) : Reached :=
  match r with
  | nothing => nothing
  | one v => f v
  | many vs => many (vs.flatMap fun v => (f v).toList)

/-- What two selections reach. -/
def join : Reached → Reached → Reached
  | nothing, r => r
  | r, nothing => r
  | a, b => many (a.toList ++ b.toList)

/-- Whether anything was reached. -/
def isFound (r : Reached) : Bool := r.toList ≠ []

end Reached

/-! ## comparisons -/

/-- The pattern of 2⁻⁵². -/
def epsilonPattern : Nat := (1023 - 52) * Binary64.binade

/-- Equality of values in a filter; numbers are equal if they are closer than
2⁻⁵². -/
def equalValues (a b : Json) : Bool :=
  match a.number?, b.number? with
  | some x, some y =>
    Binary64.nearestPattern (x.signedUnits - y.signedUnits).natAbs (Nat.pow 2 1074) < epsilonPattern
  | _, _ => a.same b

/-- The order of values in a filter: of numbers, and of strings. -/
def lessValue (a b : Json) : Bool :=
  match a.number?, b.number? with
  | some x, some y => x.signedUnits < y.signedUnits
  | _, _ =>
    match a, b with
    | .string s, .string t => s < t
    | _, _ => false

/-- Equality of operands; what reaches nothing equals only its like. -/
def equalReached : Reached → Reached → Bool
  | .nothing, .nothing => true
  | .one a, .one b => equalValues a b
  | .many [a], .one b => equalValues a b
  | .one a, .many [b] => equalValues a b
  | .many as, .many bs => Json.sameItems as bs
  | _, _ => false

/-- The order of operands. -/
def lessReached : Reached → Reached → Bool
  | .one a, .one b => lessValue a b
  | _, _ => false

/-- Whether a comparison of operands holds. -/
def compareReached (c : Comparison) (a b : Reached) : Bool :=
  match c with
  | .equal => equalReached a b
  | .notEqual => !equalReached a b
  | .less => lessReached a b
  | .greater => lessReached b a
  | .atMost => lessReached a b || equalReached a b
  | .atLeast => lessReached b a || equalReached a b

/-! ## functions -/

/-- A truth value as a value. -/
def truth (b : Bool) : Reached := .one (.bool b)

/-- A count as a value. -/
def ofCount (n : Nat) : Reached := ((Json.ofInt? n).map Reached.one).getD .nothing

/-- The length of a text, an array or an object. -/
def lengthOf : Json → Reached
  | .string s => ofCount s.toList.length
  | .array items => ofCount items.length
  | .object members => ofCount members.length
  | _ => .nothing

/-- The text that an argument holds. -/
def textOf? : Reached → Option String
  | .one (.string s) => some s
  | _ => none

/-- The elements that an argument holds. -/
def itemsOf? : Json → Option (List Json)
  | .array items => some items
  | _ => none

/-- Whether a list holds a value. -/
def holds (vs : List Json) (v : Json) : Bool := vs.any fun w => v.same w

/-- A test of membership on two values. -/
def membership (f : Function) (a b : Json) : Option Bool :=
  match f with
  | .isIn => (itemsOf? b).map fun vs => holds vs a
  | .notIn => (itemsOf? b).map fun vs => !holds vs a
  | .noneOf => do
    let us ← itemsOf? a
    let vs ← itemsOf? b
    some (us.all fun u => !holds vs u)
  | .anyOf => do
    let us ← itemsOf? a
    let vs ← itemsOf? b
    some (us.any (holds vs))
  | .subsetOf => do
    let us ← itemsOf? a
    let vs ← itemsOf? b
    some (us.all (holds vs))
  | _ => none

/-- The value of a function at its arguments. -/
def Function.apply (f : Function) (args : List Reached) : Reached :=
  match f, args with
  | .length, [.one v] => lengthOf v
  | .length, [.many vs] => ofCount vs.length
  | .length, _ => .nothing
  | .count, [r] => ofCount r.toList.length
  | .count, _ => .nothing
  | .value, [.one v] => .one v
  | .value, [.many [v]] => .one v
  | .value, _ => .nothing
  | .search, [a, b] =>
    match textOf? a, textOf? b with
    | some text, some pattern => truth ((Text.Regex.parse? pattern).any fun r => r.search text)
    | _, _ => truth false
  | .matching, [a, b] =>
    match textOf? a, textOf? b with
    | some text, some pattern => truth ((Text.Regex.parse? pattern).any fun r => r.matchesAll text)
    | _, _ => truth false
  | f, args =>
    match args.flatMap Reached.toList with
    | [a, b] => ((membership f a b).map truth).getD (.one .null)
    | _ => .one .null

/-- Whether a value is `true`. -/
def isTrue : Reached → Bool
  | .one (.bool b) => b
  | _ => false

/-! ## selectors -/

/-- The element at an index, counted from the end if it is negative. -/
def element? (items : List Json) (i : Int) : Option Json :=
  if 0 ≤ i then items[i.toNat]?
  else if i.natAbs ≤ items.length then items[items.length - i.natAbs]?
  else none

/-- The indices of a slice of `n` elements. -/
def sliceIndices (n : Nat) (first last step : Option Int) : List Nat :=
  let len : Int := n
  let norm (i : Int) : Int := if 0 ≤ i then i else len + i
  let s := step.getD 1
  if 0 < s then
    let lower := min (max (norm (first.getD 0)) 0) len
    let upper := min (max (norm (last.getD len)) 0) len
    (List.range n).filter fun (i : Nat) =>
      lower ≤ (i : Int) && (i : Int) < upper && ((i : Int) - lower) % s == 0
  else if s < 0 then
    let upper := min (max (norm (first.getD (len - 1))) (-1)) (len - 1)
    let lower := min (max (norm (last.getD (-len - 1))) (-1)) (len - 1)
    ((List.range n).filter fun (i : Nat) =>
      lower < (i : Int) && (i : Int) ≤ upper && (upper - (i : Int)) % (-s) == 0).reverse
  else []

/-- All children of a value. -/
def childrenOf (v : Json) : Reached :=
  match v.children with
  | [] => .nothing
  | vs => .many vs

mutual

/-- What a selector reaches from a value. -/
def Selector.reach (root : Json) : Selector → Json → Reached
  | .name s, v => ((v.member? s).map Reached.one).getD .nothing
  | .wildcard, v => childrenOf v
  | .index i, .array items => ((element? items i).map Reached.one).getD .nothing
  | .index _, _ => .nothing
  | .slice a b s, .array items =>
    .many ((sliceIndices items.length a b s).filterMap fun i => items[i]?)
  | .slice _ _ _, _ => .nothing
  | .filter c, v => .many (v.children.filter fun w => c.holds root w)

/-- Whether a condition holds of a value. -/
def Condition.holds (root : Json) : Condition → Json → Bool
  | .any cs, v => anyHolds root cs v
  | .all cs, v => allHold root cs v
  | .negated c, v => !c.holds root v
  | .found q, v => (q.reach root v).isFound
  | .call f args, v =>
    let r := f.apply (reachAll root args v)
    if f.isComparable then r.isFound else isTrue r
  | .comparison c a b, v => compareReached c (a.reach root v) (b.reach root v)

/-- Whether one of some conditions holds. -/
def anyHolds (root : Json) : List Condition → Json → Bool
  | [], _ => false
  | c :: cs, v => c.holds root v || anyHolds root cs v

/-- Whether all of some conditions hold. -/
def allHold (root : Json) : List Condition → Json → Bool
  | [], _ => true
  | c :: cs, v => c.holds root v && allHold root cs v

/-- What a query reaches. -/
def Query.reach (root : Json) : Query → Json → Reached
  | .mk absolute segments, v => reachThrough root segments (.one (if absolute then root else v))

/-- What segments reach, one after the other. -/
def reachThrough (root : Json) : List Segment → Reached → Reached
  | [], r => r
  | s :: ss, r => reachThrough root ss (s.reach root r)

/-- What a segment reaches. -/
def Segment.reach (root : Json) : Segment → Reached → Reached
  | .mk deep sels, r =>
    let start := if deep then Reached.many (r.toList.flatMap Json.containers) else r
    selectAll root sels start

/-- What selectors reach, each from all values. -/
def selectAll (root : Json) : List Selector → Reached → Reached
  | [], _ => .nothing
  | s :: ss, r => (r.bind fun v => s.reach root v).join (selectAll root ss r)

/-- The value of an argument. -/
def Argument.reach (root : Json) : Argument → Json → Reached
  | .literal v, _ => .one v
  | .query q, v => q.reach root v
  | .call f args, v => f.apply (reachAll root args v)
  | .condition c, v => truth (c.holds root v)

/-- The values of arguments. -/
def reachAll (root : Json) : List Argument → Json → List Reached
  | [], _ => []
  | a :: as, v => a.reach root v :: reachAll root as v

end

/-- The values that a query selects of a document. -/
def Query.select (q : Query) (document : Json) : List Json := (q.reach document document).toList

end JsonPath

end HttpChain
