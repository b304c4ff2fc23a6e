import HttpChain.Json.Basic
import HttpChain.Decimal.Layout

/-!
# HttpChain.Json.Writer

Writing JSON values, on one line without blanks (`write`) or with one element
per line and two blanks of indentation per level (`pretty`).
-/

namespace HttpChain.Json

/-- One character inside quotes. -/
def escapeChar (c : Char) : List Char :=
  if c = '"' then ['\\', '"']
  else if c = '\\' then ['\\', '\\']
  else if c = '\n' then ['\\', 'n']
  else if c = '\r' then ['\\', 'r']
  else if c = '\t' then ['\\', 't']
  else if c = '\x08' then ['\\', 'b']
  else if c = '\x0c' then ['\\', 'f']
  else if c.toNat < 0x20 then
    ['\\', 'u', '0', '0', Text.lowerHex (c.toNat / 16), Text.lowerHex (c.toNat % 16)]
  else [c]

/-- A string in quotes. -/
def quote (s : String) : List Char := '"' :: (s.toList.flatMap escapeChar ++ ['"'])

/-- A value that contains no others. -/
def leaf : Json → List Char
  | null => ['n', 'u', 'l', 'l']
  | bool true => ['t', 'r', 'u', 'e']
  | bool false => ['f', 'a', 'l', 's', 'e']
  | integer n => Text.signedDecimal n.val
  | float x => Decimal.documentForm x
  | string s => quote s
  | array _ => []
  | object _ => []

mutual

/-- A value on one line. -/
def toChars : Json → List Char
  | array items => '[' :: (itemsToChars items ++ [']'])
  | object members => '\x7b' :: (membersToChars members ++ ['\x7d'])
  | v => leaf v

/-- Elements with commas between them. -/
def itemsToChars : List Json → List Char
  | [] => []
  | [v] => toChars v
  | v :: vs => toChars v ++ ',' :: itemsToChars vs

/-- Members with commas between them. -/
def membersToChars : List (String × Json) → List Char
  | [] => []
  | [(name, v)] => quote name ++ ':' :: toChars v
  | (name, v) :: ms => quote name ++ ':' :: (toChars v ++ ',' :: membersToChars ms)

end

/-- The start of a line at a depth. -/
def newline (depth : Nat) : List Char := '\n' :: List.replicate (2 * depth) ' '

mutual

/-- A value over several lines, where its first line is already at `depth`. -/
def toLines (depth : Nat) : Json → List Char
  | array [] => ['[', ']']
  | array (v :: vs) => '[' :: (itemsToLines (depth + 1) (v :: vs) ++ newline depth ++ [']'])
  | object [] => ['\x7b', '\x7d']
  | object (m :: ms) => '\x7b' :: (membersToLines (depth + 1) (m :: ms) ++ newline depth ++ ['\x7d'])
  | v => leaf v

/-- Elements, each on its own line. -/
def itemsToLines (depth : Nat) : List Json → List Char
  | [] => []
  | [v] => newline depth ++ toLines depth v
  | v :: vs => newline depth ++ toLines depth v ++ ',' :: itemsToLines depth vs

/-- Members, each on its own line. -/
def membersToLines (depth : Nat) : List (String × Json) → List Char
  | [] => []
  | [(name, v)] => newline depth ++ quote name ++ ':' :: ' ' :: toLines depth v
  | (name, v) :: ms =>
    newline depth ++ quote name ++ ':' :: ' ' :: (toLines depth v ++ ',' :: membersToLines depth ms)

end

/-- The text of a value on one line. -/
def write (v : Json) : String := String.ofList v.toChars

/-- The text of a value over several lines. -/
def pretty (v : Json) : String := String.ofList (toLines 0 v)

/-- The text that stands for a value inside other text: strings as they are,
everything else as JSON on one line. -/
def text : Json → String
  | string s => s
  | v => v.write

end HttpChain.Json
