import HttpChain.Toml.Basic
import HttpChain.Text.Ascii

/-!
# HttpChain.Toml.Writer

Writing TOML documents for people to read.  In each table the plain values come
first and its tables and arrays of tables follow, each under a header of its
own; a string takes the quotes that need the fewest escapes.
-/

namespace HttpChain.Toml

/-! ## strings -/

/-- Characters that can only be written as escapes: the controls, except for
tabs and line ends. -/
def needsEscape (c : Char) : Bool := (c.toNat < 0x20 && c ≠ '\t' && c ≠ '\n') || c.toNat == 0x7F

/-- Whether a character stands at least `n` times in a row, where `run` of them
have just gone by. -/
def hasRun (x : Char) (n : Nat) : Nat → List Char → Bool
  | run, [] => n ≤ run
  | run, c :: cs => n ≤ run || hasRun x n (if c = x then run + 1 else 0) cs

/-- One character between double quotes. -/
def escaped (c : Char) : List Char :=
  if c = '\x08' then ['\\', 'b']
  else if c = '\t' then ['\\', 't']
  else if c = '\n' then ['\\', 'n']
  else if c = '\x0c' then ['\\', 'f']
  else if c = '\r' then ['\\', 'r']
  else if c = '"' then ['\\', '"']
  else if c = '\\' then ['\\', '\\']
  else if needsEscape c then
    ['\\', 'u', '0', '0', Text.upperHex (c.toNat / 16), Text.upperHex (c.toNat % 16)]
  else [c]

/-- The body of a basic string of several lines, behind `run` double quotes:
line ends stay, and so do double quotes that are not the third in a row. -/
def escapedLines : Nat → List Char → List Char
  | _, [] => []
  | run, c :: cs =>
    if c = '"' ∧ run < 2 then c :: escapedLines (run + 1) cs
    else if c = '\n' then c :: escapedLines 0 cs
    else escaped c ++ escapedLines 0 cs

/-- How a string is quoted. -/
inductive Quoting where
  | basic
  | literal
  | multiBasic
  | multiLiteral
deriving DecidableEq

/-- The quotes that a string takes: the first kind that needs no escapes; if
there is none, basic ones. -/
def quoting (cs : List Char) : Quoting :=
  let controls := cs.any needsEscape
  let backslash := cs.contains '\\'
  let newline := cs.contains '\n'
  if !controls && !backslash && !cs.contains '"' && !newline then .basic
  else if !controls && !cs.contains '\'' && !newline then .literal
  else if !controls && !backslash && !hasRun '"' 3 0 cs then .multiBasic
  else if !controls && !hasRun '\'' 3 0 cs then .multiLiteral
  else if newline then .multiBasic
  else .basic

/-- A string in the given quotes. -/
def quoted (cs : List Char) : Quoting → List Char
  | .basic => '"' :: (cs.flatMap escaped ++ ['"'])
  | .literal => '\'' :: (cs ++ ['\''])
  | .multiBasic => multi '"' (escapedLines 0 cs)
  | .multiLiteral => multi '\'' cs
where
  multi (quote : Char) (body : List Char) : List Char :=
    let quotes := [quote, quote, quote]
    quotes ++ (if cs.contains '\n' then '\n' :: body else body) ++ quotes

/-- A string. -/
def stringForm (s : String) : List Char := quoted s.toList (quoting s.toList)

/-- A key, bare if it can be. -/
def keyForm (s : String) : List Char :=
  let cs := s.toList
  let controls := cs.any fun c => needsEscape c || c == '\n'
  if cs ≠ [] ∧ cs.all isBareKeyChar then cs
  else if !controls && !cs.contains '\\' && !cs.contains '"' then quoted cs .basic
  else if !controls && !cs.contains '\'' then quoted cs .literal
  else quoted cs .basic

/-! ## values -/

mutual

/-- A value on one line; arrays of two and more elements take a line for
each. -/
def valueForm : Toml → List Char
  | string s => stringForm s
  | integer n => Text.signedDecimal n
  | float (.finite x) => Decimal.documentForm x
  | float x => (floatText x).toList.map Char.toLower
  | bool b => if b then "true".toList else "false".toList
  | time text => text.toList
  | array [] => ['[', ']']
  | array [v] => '[' :: (valueForm v ++ [']'])
  | array (v :: w :: vs) => '[' :: '\n' :: (elementLines (v :: w :: vs) ++ [']'])
  | table es => '\x7b' :: ' ' :: (entryForms es ++ ['\x7d'])

/-- The elements of an array, each on its own line. -/
def elementLines : List Toml → List Char
  | [] => []
  | v :: vs => "    ".toList ++ valueForm v ++ ',' :: '\n' :: elementLines vs

/-- The entries of an inline table. -/
def entryForms : List (String × Toml) → List Char
  | [] => []
  | [(k, v)] => keyForm k ++ " = ".toList ++ valueForm v ++ [' ']
  | (k, v) :: es => keyForm k ++ " = ".toList ++ valueForm v ++ ", ".toList ++ entryForms es

end

/-! ## documents -/

/-- Whether a value is a table. -/
def isTable : Toml → Bool
  | table _ => true
  | _ => false

/-- Whether a value is written under headers of its own. -/
def isChild : Toml → Bool
  | table _ => true
  | array (v :: vs) => (v :: vs).all isTable
  | _ => false

/-- The lines of the entries that are written in their table itself. -/
def ownLines (es : List (String × Toml)) : List Char :=
  (es.filter fun e => !isChild e.2).flatMap fun (k, v) =>
    keyForm k ++ " = ".toList ++ valueForm v ++ ['\n']

/-- A path of keys. -/
def pathForm (path : List String) : List Char := ['.'].intercalate (path.map keyForm)

/-- The header of a table. -/
def header (path : List String) : List Char := '[' :: (pathForm path ++ [']', '\n'])

/-- The header of a table in an array. -/
def elementHeader (path : List String) : List Char :=
  '[' :: '[' :: (pathForm path ++ [']', ']', '\n'])

mutual

/-- The sections of the tables among the entries of the table at a path. -/
def childSections (path : List String) : List (String × Toml) → List (List Char)
  | [] => []
  | (k, v) :: es => tableSections (path ++ [k]) v ++ childSections path es

/-- The sections of a table or an array of tables at a path; a table that holds
nothing but tables goes without a header. -/
def tableSections (path : List String) : Toml → List (List Char)
  | table es =>
    (if es ≠ [] ∧ es.all (fun e => isChild e.2) then [] else [header path ++ ownLines es]) ++
      childSections path es
  | array vs => if isChild (.array vs) then elementSections path vs else []
  | _ => []

/-- The sections of the tables of an array at a path. -/
def elementSections (path : List String) : List Toml → List (List Char)
  | [] => []
  | table es :: vs =>
    (elementHeader path ++ ownLines es) :: (childSections path es ++ elementSections path vs)
  | _ :: vs => elementSections path vs

end

/-- The text of a document: its sections with an empty line between them. -/
def toChars (es : List (String × Toml)) : List Char :=
  let own := ownLines es
  let sections := (if own = [] then [] else [own]) ++ childSections [] es
  ['\n'].intercalate sections

/-- The text of a document. -/
def write (es : List (String × Toml)) : String := String.ofList (toChars es)

end HttpChain.Toml
