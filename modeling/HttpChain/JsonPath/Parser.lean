import HttpChain.JsonPath.Basic
import HttpChain.Json.Reader

/-!
# HttpChain.JsonPath.Parser

Reading queries.  Blanks may stand between the parts of a query, but not behind
the points in front of a name; integers stay within what a binary64 number
holds exactly.
-/

namespace HttpChain.JsonPath

/-- A reader of something at the front of a text. -/
abbrev Reader (α : Type) := List Char → Option (α × List Char)

/-- Cut blanks from the front. -/
def skip (cs : List Char) : List Char := Json.skipSpace cs

/-- The character that has to come next, behind blanks. -/
def expect? (c : Char) (cs : List Char) : Option (List Char) :=
  match skip cs with
  | d :: rest => if d = c then some rest else none
  | [] => none

/-! ## tokens -/

/-- An integer: no leading zeros, and at most 2⁵³ - 1 in size. -/
def integer? : Reader Int := fun cs =>
  match cs with
  | '0' :: rest => some (0, rest)
  | _ =>
    let (negative, digits) := match cs with
      | '-' :: ds => (true, ds)
      | ds => (false, ds)
    let ds := digits.takeWhile Text.isDigit
    let n := Text.decimalValue ds
    if ds = [] ∨ ds.head? = some '0' ∨ 0x20000000000000 ≤ n then none
    else some (if negative then -(n : Int) else n, digits.drop ds.length)

/-- The characters of a string up to its closing quote. -/
def characters? (quote : Char) : Nat → Reader (List Char)
  | 0, _ => none
  | _ + 1, [] => none
  | fuel + 1, c :: cs =>
    if c = quote then some ([], cs)
    else if c = '\\' then do
      let (d, cs) ←
        match cs with
        | '\'' :: rest => if quote = '\'' then some ('\'', rest) else none
        | '"' :: rest => if quote = '"' then some ('"', rest) else none
        | _ => Json.escape? cs
      let (ds, cs) ← characters? quote fuel cs
      pure (d :: ds, cs)
    else if c.toNat < 0x20 then none
    else do
      let (ds, cs) ← characters? quote fuel cs
      pure (c :: ds, cs)

/-- A string in quotes of either kind. -/
def string? : Reader String := fun cs =>
  match cs with
  | c :: rest =>
    if c = '\'' ∨ c = '"' then
      (characters? c (rest.length + 1) rest).map fun (s, cs) => (String.ofList s, cs)
    else none
  | [] => none

/-- Characters that a bare name may start with. -/
def startsName (c : Char) : Bool := c.isAlpha || c == '_' || 0x80 ≤ c.toNat

/-- A bare name. -/
def name? : Reader String := fun cs =>
  match cs with
  | c :: _ =>
    let name := cs.takeWhile fun c => startsName c || Text.isDigit c
    if startsName c then some (String.ofList name, cs.drop name.length) else none
  | [] => none

/-- A number; with a fraction or an exponent it is a float. -/
def number? : Reader Json := fun cs => do
  let (whole, rest) ←
    match cs with
    | '-' :: '0' :: rest => some ((0 : Int), rest)
    | cs => integer? cs
  let negative := cs.head? = some '-'
  let (fraction, rest) ←
    match rest with
    | '.' :: ds =>
      let f := ds.takeWhile Text.isDigit
      if f = [] then none else some (f, ds.drop f.length)
    | rest => some ([], rest)
  let (exponent, rest) : Option Int × List Char :=
    match rest with
    | e :: ds =>
      let (minus, digits) := match ds with
        | '-' :: ds => (true, ds)
        | '+' :: ds => (false, ds)
        | ds => (false, ds)
      let x := digits.takeWhile Text.isDigit
      if (e = 'e' ∨ e = 'E') ∧ x ≠ [] then
        let n : Int := Text.decimalValue x
        (some (if minus then -n else n), digits.drop x.length)
      else (none, rest)
    | [] => (none, rest)
  if fraction = [] ∧ exponent.isNone then do
    let v ← Json.ofInt? whole
    pure (v, rest)
  else
    let digits := Text.decimal whole.natAbs ++ fraction
    match Binary64.ofDecimal? negative (Text.decimalValue digits)
        (exponent.getD 0 - fraction.length) with
    | some x => pure (.float x, rest)
    | none => pure (.null, rest)

/-- A literal value. -/
def literal? : Reader Json := fun cs =>
  match cs with
  | 'n' :: 'u' :: 'l' :: 'l' :: rest => some (.null, rest)
  | 't' :: 'r' :: 'u' :: 'e' :: rest => some (.bool true, rest)
  | 'f' :: 'a' :: 'l' :: 's' :: 'e' :: rest => some (.bool false, rest)
  | c :: _ =>
    if c = '\'' ∨ c = '"' then (string? cs).map fun (s, rest) => (.string s, rest)
    else number? cs
  | [] => none

/-- The sign of a comparison. -/
def comparison? : Reader Comparison := fun cs =>
  match cs with
  | '=' :: '=' :: rest => some (.equal, rest)
  | '!' :: '=' :: rest => some (.notEqual, rest)
  | '<' :: '=' :: rest => some (.atMost, rest)
  | '>' :: '=' :: rest => some (.atLeast, rest)
  | '<' :: rest => some (.less, rest)
  | '>' :: rest => some (.greater, rest)
  | _ => none

/-- The name of a function and its opening bracket. -/
def function? : Reader Function := fun cs =>
  Function.all.findSome? fun f => (Text.after? (f.name.toList ++ ['(']) cs).map fun rest => (f, rest)

/-- Where a query starts: at the document or at the value at hand. -/
def start? : Reader Bool := fun cs =>
  match cs with
  | '$' :: rest => some (true, rest)
  | '@' :: rest => some (false, rest)
  | _ => none

/-- The single steps of a query. -/
def steps : Nat → List Char → List Step × List Char
  | 0, cs => ([], cs)
  | fuel + 1, cs =>
    let step : Option (Step × List Char) :=
      match skip cs with
      | '.' :: rest => (name? rest).map fun (s, rest) => (.name s, rest)
      | '[' :: rest => do
        let (s, rest) ←
          match string? (skip rest) with
          | some (s, rest) => some (Step.name s, rest)
          | none => (integer? (skip rest)).map fun (i, rest) => (Step.index i, rest)
        let rest ← expect? ']' rest
        pure (s, rest)
      | _ => none
    match step with
    | some (s, rest) =>
      let (ss, rest) := steps fuel rest
      (s :: ss, rest)
    | none => ([], cs)

/-- A slice, or an index. -/
def range? : Reader Selector := fun cs =>
  let optional (cs : List Char) : Option Int × List Char :=
    match integer? (skip cs) with
    | some (i, rest) => (some i, rest)
    | none => (none, cs)
  let (first, rest) := optional cs
  match skip rest with
  | ':' :: rest =>
    let (last, rest) := optional rest
    match skip rest with
    | ':' :: rest =>
      let (step, rest) := optional rest
      some (.slice first last step, rest)
    | _ => some (.slice first last none, rest)
  | _ => first.map fun i => (.index i, rest)

/-! ## queries and conditions -/

/-- A bare name or a wildcard. -/
def shorthand? (cs : List Char) : Option (List Selector × List Char) :=
  match cs with
  | '*' :: rest => some ([.wildcard], rest)
  | cs => (name? cs).map fun (s, rest) => ([.name s], rest)

/-- Whether a function takes an argument of some kind. -/
def accepts (f : Function) (a : Argument) : Bool :=
  match f, a with
  | .count, .literal _ => false
  | .value, .literal _ => false
  | .length, .condition _ => false
  | .count, .condition _ => false
  | .value, .condition _ => false
  | .matching, .condition _ => false
  | _, _ => true

mutual

/-- The segments of a query. -/
def segments? : Nat → Reader (List Segment)
  | 0, _ => none
  | fuel + 1, cs =>
    match skip cs with
    | '[' :: rest => do
      let (sels, rest) ← selectors? fuel rest
      let (ss, rest) ← segments? fuel rest
      pure (.mk false sels :: ss, rest)
    | '.' :: '.' :: rest => do
      let (sels, rest) ←
        match rest with
        | '[' :: rest => selectors? fuel rest
        | rest => shorthand? rest
      let (ss, rest) ← segments? fuel rest
      pure (.mk true sels :: ss, rest)
    | '.' :: rest => do
      let (sels, rest) ← shorthand? rest
      let (ss, rest) ← segments? fuel rest
      pure (.mk false sels :: ss, rest)
    | _ => some ([], cs)

/-- Selectors with commas between them, up to the closing bracket. -/
def selectors? : Nat → Reader (List Selector)
  | 0, _ => none
  | fuel + 1, cs => do
    let (s, rest) ← selector? fuel (skip cs)
    match skip rest with
    | ',' :: rest => do
      let (ss, rest) ← selectors? fuel rest
      pure (s :: ss, rest)
    | ']' :: rest => some ([s], rest)
    | _ => none

/-- One selector. -/
def selector? : Nat → Reader Selector
  | 0, _ => none
  | fuel + 1, cs =>
    match cs with
    | '*' :: rest => some (.wildcard, rest)
    | '?' :: rest => (disjunction? fuel rest).map fun (c, rest) => (.filter c, rest)
    | c :: _ =>
      if c = '\'' ∨ c = '"' then (string? cs).map fun (s, rest) => (.name s, rest)
      else range? cs
    | [] => none

/-- Conditions of which one has to hold. -/
def disjunction? : Nat → Reader Condition
  | 0, _ => none
  | fuel + 1, cs => do
    let (c, rest) ← conjunction? fuel cs
    match skip rest with
    | '|' :: '|' :: more => do
      let (d, rest) ← disjunction? fuel more
      pure (.any [c, d], rest)
    | _ => some (c, rest)

/-- Conditions all of which have to hold. -/
def conjunction? : Nat → Reader Condition
  | 0, _ => none
  | fuel + 1, cs => do
    let (c, rest) ← condition? fuel (skip cs)
    match skip rest with
    | '&' :: '&' :: more => do
      let (d, rest) ← conjunction? fuel more
      pure (.all [c, d], rest)
    | _ => some (c, rest)

/-- A single condition: one in brackets, a comparison or a test. -/
def condition? : Nat → Reader Condition
  | 0, _ => none
  | fuel + 1, cs =>
    let (negated, body) := match cs with
      | '!' :: rest => (true, skip rest)
      | _ => (false, cs)
    let finish (c : Condition) : Condition := if negated then .negated c else c
    match body with
    | '(' :: rest => do
      let (c, rest) ← disjunction? fuel rest
      let rest ← expect? ')' rest
      pure (finish c, rest)
    | _ =>
      let compared : Option (Condition × List Char) := do
        let (l, rest) ← if negated then none else operand? fuel cs
        let (op, rest) ← comparison? (skip rest)
        let (r, rest) ← operand? fuel (skip rest)
        pure (.comparison op l r, rest)
      match compared with
      | some r => some r
      | none => do
        let (a, rest) ← test? fuel body
        match a with
        | .query q => pure (finish (.found q), rest)
        | .call f args => pure (finish (.call f args), rest)
        | _ => none

/-- An operand of a comparison: a literal, a query of single steps, or a
function that yields a value. -/
def operand? : Nat → Reader Argument
  | 0, _ => none
  | fuel + 1, cs =>
    match start? cs with
    | some (absolute, rest) =>
      let (ss, rest) := steps rest.length rest
      some (.query (.ofSteps absolute ss), rest)
    | none =>
      match literal? cs with
      | some (v, rest) => some (.literal v, rest)
      | none => do
        let (a, rest) ← call? fuel cs
        match a with
        | .call f _ => if f.isComparable then some (a, rest) else none
        | _ => none

/-- A query or a function call. -/
def test? : Nat → Reader Argument
  | 0, _ => none
  | fuel + 1, cs =>
    match start? cs with
    | some (absolute, rest) =>
      (segments? fuel rest).map fun (ss, rest) => (.query (.mk absolute ss), rest)
    | none => call? fuel cs

/-- A function call. -/
def call? : Nat → Reader Argument
  | 0, _ => none
  | fuel + 1, cs => do
    let (f, rest) ← function? cs
    let (args, rest) ← arguments? fuel rest
    if args.length = f.arity ∧ args.all (accepts f) then pure (.call f args, rest) else none

/-- Arguments up to the closing bracket. -/
def arguments? : Nat → Reader (List Argument)
  | 0, _ => none
  | fuel + 1, cs => do
    let (a, rest) ← argument? fuel (skip cs)
    match skip rest with
    | ',' :: rest => do
      let (as, rest) ← arguments? fuel rest
      pure (a :: as, rest)
    | ')' :: rest => some ([a], rest)
    | _ => none

/-- One argument. -/
def argument? : Nat → Reader Argument
  | 0, _ => none
  | fuel + 1, cs =>
    match literal? cs with
    | some (v, rest) => some (.literal v, rest)
    | none =>
      match test? fuel cs with
      | some r => some r
      | none => (disjunction? fuel cs).map fun (c, rest) => (.condition c, rest)

end

/-- The query of a text. -/
def parse? (text : List Char) : Option Query :=
  match text with
  | '$' :: rest =>
    match segments? (8 * rest.length + 8) rest with
    | some (ss, rest) => if skip rest = [] then some (.mk true ss) else none
    | none => none
  | _ => none

end HttpChain.JsonPath
