import HttpChain.Toml.Scalar

/-!
# HttpChain.Toml.Reader

Reading TOML documents.  While a document is read, each table knows how it came
about: by a header of its own, on the way to some other table, or through a
dotted key.  That decides whether it may be opened or added to again, so that
no key and no table is defined twice.
-/

namespace HttpChain.Toml

/-! ## blanks and comments -/

/-- Cut spaces and tabs from the front. -/
def skipBlanks (cs : List Char) : List Char := cs.dropWhile fun c => c == ' ' || c == '\t'

/-- Characters that a comment and a string may hold as they are. -/
def isPrintable (c : Char) : Bool := c == '\t' || (0x20 ≤ c.toNat && c.toNat ≠ 0x7F)

/-- A line end at the front. -/
def lineEnd? : List Char → Option (List Char)
  | '\n' :: cs => some cs
  | '\r' :: '\n' :: cs => some cs
  | _ => none

/-- Cut a comment from the front, up to the end of its line. -/
def skipComment : List Char → List Char
  | '#' :: cs => cs.dropWhile isPrintable
  | cs => cs

/-- The next line, if nothing but a comment is left of this one. -/
def restOfLine? (cs : List Char) : Option (List Char) :=
  match skipComment (skipBlanks cs) with
  | [] => some []
  | cs => lineEnd? cs

/-- Cut blanks, comments and line ends from the front. -/
def skipLines : Nat → List Char → List Char
  | 0, cs => cs
  | fuel + 1, cs =>
    let rest := skipComment (skipBlanks cs)
    match lineEnd? rest with
    | some rest => skipLines fuel rest
    | none => rest

/-- Cut blanks, comments and line ends from the front. -/
def skipAll (cs : List Char) : List Char := skipLines cs.length cs

/-! ## strings -/

/-- The character of a number of exactly `n` hexadecimal digits. -/
def codePoint? (n : Nat) (cs : List Char) : Option (Char × List Char) := do
  let ds ← (cs.take n).mapM Text.hexValue?
  let v := Text.valueInBase 16 ds
  if ds.length = n ∧ (v < 0xD800 ∨ (0xE000 ≤ v ∧ v < 0x110000)) then some (Char.ofNat v, cs.drop n)
  else none

/-- The character that an escape names, behind its backslash. -/
def escape? : List Char → Option (Char × List Char)
  | 'b' :: cs => some ('\x08', cs)
  | 't' :: cs => some ('\t', cs)
  | 'n' :: cs => some ('\n', cs)
  | 'f' :: cs => some ('\x0c', cs)
  | 'r' :: cs => some ('\r', cs)
  | 'e' :: cs => some ('\x1b', cs)
  | '"' :: cs => some ('"', cs)
  | '\\' :: cs => some ('\\', cs)
  | 'x' :: cs => codePoint? 2 cs
  | 'u' :: cs => codePoint? 4 cs
  | 'U' :: cs => codePoint? 8 cs
  | _ => none

/-- A basic string behind its opening quote. -/
def basic? : Nat → List Char → Option (List Char × List Char)
  | 0, _ => none
  | _ + 1, [] => none
  | fuel + 1, c :: cs =>
    if c = '"' then some ([], cs)
    else if c = '\\' then do
      let (d, cs) ← escape? cs
      let (ds, cs) ← basic? fuel cs
      pure (d :: ds, cs)
    else if isPrintable c then do
      let (ds, cs) ← basic? fuel cs
      pure (c :: ds, cs)
    else none

/-- A literal string behind its opening quote. -/
def literal? (cs : List Char) : Option (List Char × List Char) :=
  let body := cs.takeWhile fun c => c ≠ '\'' && isPrintable c
  match cs.drop body.length with
  | '\'' :: rest => some (body, rest)
  | _ => none

/-- The end of a string of several lines: three quotes, in front of which up to
two more belong to the string. -/
def closing? (quote : Char) (cs : List Char) : Option (List Char × List Char) :=
  let n := min 5 (cs.takeWhile (· == quote)).length
  if 3 ≤ n then some (List.replicate (n - 3) quote, cs.drop n) else none

/-- The body of a basic string of several lines. -/
def multiBasic? : Nat → List Char → Option (List Char × List Char)
  | 0, _ => none
  | _ + 1, [] => none
  | fuel + 1, c :: cs =>
    match closing? '"' (c :: cs) with
    | some r => some r
    | none =>
      if c = '\\' then
        match lineEnd? (skipBlanks cs) with
        | some rest =>
          multiBasic? fuel (rest.dropWhile fun c => c == ' ' || c == '\t' || c == '\n' || c == '\r')
        | none => do
          let (d, cs) ← escape? cs
          let (ds, cs) ← multiBasic? fuel cs
          pure (d :: ds, cs)
      else if isPrintable c ∨ c = '\n' ∨ (c = '\r' ∧ cs.head? = some '\n') then do
        let (ds, cs) ← multiBasic? fuel cs
        pure (c :: ds, cs)
      else none

/-- The body of a literal string of several lines. -/
def multiLiteral? : Nat → List Char → Option (List Char × List Char)
  | 0, _ => none
  | _ + 1, [] => none
  | fuel + 1, c :: cs =>
    match closing? '\'' (c :: cs) with
    | some r => some r
    | none =>
      if isPrintable c ∨ c = '\n' ∨ (c = '\r' ∧ cs.head? = some '\n') then do
        let (ds, cs) ← multiLiteral? fuel cs
        pure (c :: ds, cs)
      else none

/-- A string of any kind at the front of a text. -/
def string? (cs : List Char) : Option (List Char × List Char) :=
  let body (rest : List Char) : List Char := (lineEnd? rest).getD rest
  match cs with
  | '"' :: '"' :: '"' :: rest => multiBasic? (rest.length + 1) (body rest)
  | '\'' :: '\'' :: '\'' :: rest => multiLiteral? (rest.length + 1) (body rest)
  | '"' :: rest => basic? (rest.length + 1) rest
  | '\'' :: rest => literal? rest
  | _ => none

/-! ## keys -/

/-- A key at the front of a text. -/
def key? (cs : List Char) : Option (String × List Char) :=
  match cs with
  | '"' :: rest => (basic? (rest.length + 1) rest).map fun (s, cs) => (String.ofList s, cs)
  | '\'' :: rest => (literal? rest).map fun (s, cs) => (String.ofList s, cs)
  | _ =>
    let name := cs.takeWhile isBareKeyChar
    if name = [] then none else some (String.ofList name, cs.drop name.length)

/-- Keys with points between them, and the text behind them and their blanks. -/
def dottedKey? : Nat → List Char → Option (List String × List Char)
  | 0, _ => none
  | fuel + 1, cs => do
    let (k, cs) ← key? cs
    match skipBlanks cs with
    | '.' :: cs => (dottedKey? fuel (skipBlanks cs)).map fun (ks, cs) => (k :: ks, cs)
    | cs => pure ([k], cs)

/-! ## tables under construction -/

/-- How a table came about. -/
inductive Origin where
  | header
  | path
  | dotted
deriving DecidableEq

/-- A value under construction: one that is finished, a table, or the tables of
an array, the last of which is still open. -/
inductive Draft where
  | done (v : Toml)
  | table (origin : Origin) (entries : List (String × Draft))
  | tables (items : List (List (String × Draft)))

namespace Draft

/-- The entries of a table under construction. -/
abbrev Entries := List (String × Draft)

/-- The draft of a key. -/
def get? (name : String) : Entries → Option Draft
  | [] => none
  | (k, d) :: rest => if k = name then some d else get? name rest

/-- Write the draft of a key. -/
def put (name : String) (d : Draft) : Entries → Entries
  | [] => [(name, d)]
  | (k, e) :: rest => if k = name then (k, d) :: rest else (k, e) :: put name d rest

/-- Change the table at the end of a path, making the tables on the way.  Along
a dotted key, no table with a header of its own may be entered. -/
def within (new : Origin) (f : Origin → Entries → Option Entries) :
    Origin → List String → Entries → Option Entries
  | origin, [], es => f origin es
  | _, k :: ks, es =>
    match get? k es with
    | none => (within new f new ks []).map fun sub => put k (.table new sub) es
    | some (.done _) => none
    | some (.table origin sub) =>
      if new = .dotted ∧ origin = .header then none
      else (within new f origin ks sub).map fun sub => put k (.table origin sub) es
    | some (.tables items) =>
      match items.getLast? with
      | none => none
      | some last =>
        (within new f .header ks last).map fun last => put k (.tables (items.dropLast ++ [last])) es

/-- Define the value of a dotted key in a table. -/
def define (keys : List String) (v : Toml) (es : Entries) : Option Entries :=
  match keys.getLast? with
  | none => none
  | some k =>
    let add (origin : Origin) (es : Entries) : Option Entries :=
      if (get? k es).isSome ∨ (1 < keys.length ∧ origin ≠ .dotted) then none
      else some (es ++ [(k, .done v)])
    within .dotted add .header keys.dropLast es

/-- Open the table of a header. -/
def openTable (keys : List String) (es : Entries) : Option Entries :=
  match keys.getLast? with
  | none => none
  | some k =>
    let add (_ : Origin) (es : Entries) : Option Entries :=
      match get? k es with
      | none => some (es ++ [(k, .table .header [])])
      | some (.table .path sub) => some (put k (.table .header sub) es)
      | some _ => none
    within .path add .header keys.dropLast es

/-- Open the next table of an array. -/
def openElement (keys : List String) (es : Entries) : Option Entries :=
  match keys.getLast? with
  | none => none
  | some k =>
    let add (_ : Origin) (es : Entries) : Option Entries :=
      match get? k es with
      | none => some (es ++ [(k, .tables [[]])])
      | some (.tables items) => some (put k (.tables (items ++ [[]])) es)
      | some _ => none
    within .path add .header keys.dropLast es

/-- Define a value below the header that is open. -/
def defineBelow (header keys : List String) (v : Toml) (es : Entries) : Option Entries :=
  within .path (fun _ es => define keys v es) .header header es

mutual

/-- The finished value of a draft. -/
def finish : Draft → Toml
  | done v => v
  | table _ es => .table (finishEntries es)
  | tables items => .array (finishItems items)

/-- The finished entries of a table. -/
def finishEntries : List (String × Draft) → List (String × Toml)
  | [] => []
  | (k, d) :: rest => (k, finish d) :: finishEntries rest

/-- The finished tables of an array. -/
def finishItems : List (List (String × Draft)) → List Toml
  | [] => []
  | es :: rest => .table (finishEntries es) :: finishItems rest

end

end Draft

/-! ## values -/

/-- The longest text at the front that can be a value without quotes, with the
time of day that may follow a date behind a space. -/
def scalarText (cs : List Char) : List Char :=
  let word := cs.takeWhile isScalarChar
  match cs.drop word.length with
  | ' ' :: rest =>
    let time := rest.takeWhile isScalarChar
    if isDate word ∧ (time.head?.any Text.isDigit) then word ++ ' ' :: time else word
  | _ => word

/-- How deep arrays and inline tables may be nested. -/
def depthLimit : Nat := 80

mutual

/-- A value at the front of a text, in which arrays and inline tables are nested
up to a depth. -/
def value? : Nat → Nat → List Char → Option (Toml × List Char)
  | 0, _, _ => none
  | fuel + 1, depth, cs =>
    match cs, depth with
    | '[' :: _, 0 => none
    | '\x7b' :: _, 0 => none
    | '[' :: cs, depth + 1 =>
      (items? fuel depth (skipAll cs)).map fun (vs, cs) => (.array vs, cs)
    | '\x7b' :: cs, depth + 1 =>
      (inlineEntries? fuel depth (skipAll cs) []).map fun (es, cs) =>
        (.table (Draft.finishEntries es), cs)
    | c :: rest, _ =>
      if c = '"' ∨ c = '\'' then
        (string? (c :: rest)).map fun (s, cs) => (.string (String.ofList s), cs)
      else do
        let text := scalarText (c :: rest)
        let v ← scalar? text
        pure (v, (c :: rest).drop text.length)
    | [], _ => none

/-- The elements of an array up to its closing bracket. -/
def items? : Nat → Nat → List Char → Option (List Toml × List Char)
  | 0, _, _ => none
  | fuel + 1, depth, cs =>
    match cs with
    | ']' :: cs => some ([], cs)
    | cs => do
      let (v, cs) ← value? fuel depth cs
      match skipAll cs with
      | ',' :: cs => (items? fuel depth (skipAll cs)).map fun (vs, cs) => (v :: vs, cs)
      | ']' :: cs => some ([v], cs)
      | _ => none

/-- The entries of an inline table up to its closing brace. -/
def inlineEntries? : Nat → Nat → List Char → List (String × Draft) →
    Option (List (String × Draft) × List Char)
  | 0, _, _, _ => none
  | fuel + 1, depth, cs, es =>
    match cs with
    | '\x7d' :: cs => some (es, cs)
    | cs => do
      let (keys, cs) ← dottedKey? (cs.length + 1) cs
      match cs with
      | '=' :: cs => do
        let (v, cs) ← value? fuel depth (skipBlanks cs)
        let es ← Draft.define keys v es
        match skipAll cs with
        | ',' :: cs => inlineEntries? fuel depth (skipAll cs) es
        | '\x7d' :: cs => some (es, cs)
        | _ => none
      | _ => none

end

/-! ## documents -/

/-- The lines of a document, where `header` is the table that is open. -/
def lines? : Nat → List String → List Char → List (String × Draft) → Option (List (String × Draft))
  | 0, _, _, _ => none
  | fuel + 1, header, cs, es =>
    match skipAll cs with
    | [] => some es
    | '[' :: '[' :: cs => do
      let (keys, cs) ← dottedKey? (cs.length + 1) (skipBlanks cs)
      match cs with
      | ']' :: ']' :: cs => do
        let es ← Draft.openElement keys es
        let cs ← restOfLine? cs
        lines? fuel keys cs es
      | _ => none
    | '[' :: cs => do
      let (keys, cs) ← dottedKey? (cs.length + 1) (skipBlanks cs)
      match cs with
      | ']' :: cs => do
        let es ← Draft.openTable keys es
        let cs ← restOfLine? cs
        lines? fuel keys cs es
      | _ => none
    | cs => do
      let (keys, cs) ← dottedKey? (cs.length + 1) cs
      match cs with
      | '=' :: cs => do
        let (v, cs) ← value? (2 * cs.length + 2) depthLimit (skipBlanks cs)
        let es ← Draft.defineBelow header keys v es
        let cs ← restOfLine? cs
        lines? fuel header cs es
      | _ => none

/-- The document of a text; a byte order mark in front of it does not count. -/
def ofChars? (cs : List Char) : Option (List (String × Toml)) :=
  let cs := match cs with
    | '\uFEFF' :: rest => rest
    | cs => cs
  (lines? (cs.length + 1) [] cs []).map Draft.finishEntries

/-- The document of a text. -/
def read? (text : String) : Option (List (String × Toml)) := ofChars? text.toList

end HttpChain.Toml
