import HttpChain.Json.Number

/-!
# HttpChain.Json.Reader

Reading JSON text.  A document is one value with blanks around it; values nest
at most 127 deep, an escape of a surrogate counts only as half of a pair, and
of two members with one name the later wins.
-/

namespace HttpChain.Json

/-- The four blanks of JSON. -/
def isSpace (c : Char) : Bool := c == ' ' || c == '\n' || c == '\t' || c == '\r'

/-- Cut blanks from the front. -/
def skipSpace (cs : List Char) : List Char := cs.dropWhile isSpace

/-- The 16-bit unit of four hexadecimal digits at the front. -/
def unit? : List Char → Option (Nat × List Char)
  | a :: b :: c :: d :: cs => do
    let a ← Text.hexValue? a
    let b ← Text.hexValue? b
    let c ← Text.hexValue? c
    let d ← Text.hexValue? d
    pure (((a * 16 + b) * 16 + c) * 16 + d, cs)
  | _ => none

/-- The character that an escape names, behind its backslash. -/
def escape? : List Char → Option (Char × List Char)
  | '"' :: cs => some ('"', cs)
  | '\\' :: cs => some ('\\', cs)
  | '/' :: cs => some ('/', cs)
  | 'b' :: cs => some ('\x08', cs)
  | 'f' :: cs => some ('\x0c', cs)
  | 'n' :: cs => some ('\n', cs)
  | 'r' :: cs => some ('\r', cs)
  | 't' :: cs => some ('\t', cs)
  | 'u' :: cs => do
    let (high, cs) ← unit? cs
    if 0xDC00 ≤ high ∧ high < 0xE000 then none
    else if 0xD800 ≤ high ∧ high < 0xDC00 then
      match cs with
      | '\\' :: 'u' :: cs => do
        let (low, cs) ← unit? cs
        if 0xDC00 ≤ low ∧ low < 0xE000 then
          pure (Char.ofNat (0x10000 + (high - 0xD800) * 0x400 + (low - 0xDC00)), cs)
        else none
      | _ => none
    else pure (Char.ofNat high, cs)
  | _ => none

/-- The characters of a string up to its closing quote. -/
def characters : Nat → List Char → Option (List Char × List Char)
  | 0, _ => none
  | _ + 1, [] => none
  | fuel + 1, c :: cs =>
    if c = '"' then some ([], cs)
    else if c = '\\' then do
      let (d, cs) ← escape? cs
      let (ds, cs) ← characters fuel cs
      pure (d :: ds, cs)
    else if c.toNat < 0x20 then none
    else do
      let (ds, cs) ← characters fuel cs
      pure (c :: ds, cs)

/-- A string behind its opening quote. -/
def quoted? (cs : List Char) : Option (String × List Char) :=
  (characters (cs.length + 1) cs).map fun (s, cs) => (String.ofList s, cs)

/-- A word with a fixed value. -/
def keyword? (cs : List Char) : Option (Json × List Char) :=
  match cs with
  | 'n' :: 'u' :: 'l' :: 'l' :: cs => some (.null, cs)
  | 't' :: 'r' :: 'u' :: 'e' :: cs => some (.bool true, cs)
  | 'f' :: 'a' :: 'l' :: 's' :: 'e' :: cs => some (.bool false, cs)
  | _ => none

mutual

/-- A value at the front of a text, where containers may still open `depth`
levels. -/
def value? : Nat → Nat → List Char → Option (Json × List Char)
  | 0, _, _ => none
  | fuel + 1, depth, cs =>
    match skipSpace cs with
    | '"' :: cs => (quoted? cs).map fun (s, cs) => (.string s, cs)
    | '[' :: cs =>
      if depth = 0 then none
      else match skipSpace cs with
        | ']' :: cs => some (.array [], cs)
        | cs => (items? fuel (depth - 1) cs).map fun (vs, cs) => (.array vs, cs)
    | '\x7b' :: cs =>
      if depth = 0 then none
      else match skipSpace cs with
        | '\x7d' :: cs => some (.object [], cs)
        | cs => (members? fuel (depth - 1) cs).map fun (ms, cs) => (.object (Assoc.ofList ms), cs)
    | c :: cs =>
      if c = '-' ∨ Text.isDigit c then do
        let (l, cs) ← Literal.read? (c :: cs)
        let v ← l.value?
        pure (v, cs)
      else keyword? (c :: cs)
    | [] => none

/-- The elements of an array, up to its closing bracket. -/
def items? : Nat → Nat → List Char → Option (List Json × List Char)
  | 0, _, _ => none
  | fuel + 1, depth, cs => do
    let (v, cs) ← value? fuel depth cs
    match skipSpace cs with
    | ',' :: cs => (items? fuel depth cs).map fun (vs, cs) => (v :: vs, cs)
    | ']' :: cs => some ([v], cs)
    | _ => none

/-- The members of an object, up to its closing brace. -/
def members? : Nat → Nat → List Char → Option (List (String × Json) × List Char)
  | 0, _, _ => none
  | fuel + 1, depth, cs =>
    match skipSpace cs with
    | '"' :: cs => do
      let (name, cs) ← quoted? cs
      match skipSpace cs with
      | ':' :: cs => do
        let (v, cs) ← value? fuel depth cs
        match skipSpace cs with
        | ',' :: cs => (members? fuel depth cs).map fun (ms, cs) => ((name, v) :: ms, cs)
        | '\x7d' :: cs => some ([(name, v)], cs)
        | _ => none
      | _ => none
    | _ => none

end

/-- How deep values may nest. -/
def depthLimit : Nat := 127

/-- The value of a JSON text. -/
def ofChars? (cs : List Char) : Option Json :=
  match value? (2 * cs.length + 2) depthLimit cs with
  | some (v, rest) => if skipSpace rest = [] then some v else none
  | none => none

/-- The value of a JSON text. -/
def read? (text : String) : Option Json := ofChars? text.toList

end HttpChain.Json
