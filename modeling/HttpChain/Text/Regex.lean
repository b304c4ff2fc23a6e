import HttpChain.Text.Blank
import HttpChain.Text.Category

/-!
# HttpChain.Text.Regex

Regular expressions.  An expression maps each set of places in a text to the
set of places where a match that starts at one of them can end, so a search is
one evaluation and takes no choices back.
-/

namespace HttpChain.Text

/-- A set of characters. -/
abbrev CharSet := Char → Bool

/-- A place that an expression asks for without taking a character. -/
inductive Anchor where
  | textStart
  | textEnd
  | lineStart
  | lineEnd
  | boundary
  | inside
deriving DecidableEq

/-- A regular expression. -/
inductive Regex where
  | empty
  | set (s : CharSet)
  | anchor (a : Anchor)
  | seq (a b : Regex)
  | alt (a b : Regex)
  | times (a : Regex) (least : Nat) (most : Option Nat)

/-! ## matching -/

namespace CharSet

/-- Decimal digits of every script. -/
def digit : CharSet := fun c => Category.of c = .decimalDigit

/-- Characters of words: letters, marks, digits, connectors and joiners. -/
def word : CharSet := fun c =>
  if c.toNat < 128 then c.isAlphanum || c == '_'
  else
    let cat := Category.of c
    cat.name.front == 'L' || cat.name.front == 'M' || cat == .decimalDigit || cat == .letterNumber ||
      cat == .connector || c.toNat == 0x200C || c.toNat == 0x200D ||
      (0x24B6 ≤ c.toNat && c.toNat ≤ 0x24E9)

/-- A range of characters. -/
def range (a b : Char) : CharSet := fun c => a ≤ c && c ≤ b

/-- Characters that do not belong to a set. -/
def complement (s : CharSet) : CharSet := fun c => !s c

/-- Characters that belong to a set in one of their cases. -/
def ignoringCase (s : CharSet) : CharSet := fun c => s c || s c.toLower || s c.toUpper

end CharSet

namespace Regex

/-- Whether a place is where an anchor asks to be. -/
def holdsAt (t : Array Char) (p : Nat) : Anchor → Bool
  | .textStart => p == 0
  | .textEnd => p == t.size
  | .lineStart => p == 0 || t[p - 1]? == some '\n'
  | .lineEnd => p == t.size || t[p]? == some '\n'
  | .boundary => before != after
  | .inside => before == after
where
  before : Bool := p != 0 && (t[p - 1]?.map CharSet.word).getD false
  after : Bool := (t[p]?.map CharSet.word).getD false

/-- Add places to a set. -/
def union (a b : List Nat) : List Nat := a ++ b.filter fun p => !a.contains p

/-- Repeat a step on a set of places until nothing new comes, at most `fuel`
times, and collect all places met. -/
def closure (step : List Nat → List Nat) : Nat → List Nat → List Nat → List Nat
  | 0, _, seen => seen
  | fuel + 1, new, seen =>
    let next := (step new).filter fun p => !seen.contains p
    if next = [] then seen else closure step fuel next (union seen next)

/-- Apply a step a number of times; where it changes nothing, once is enough. -/
def iterate (step : List Nat → List Nat) : Nat → List Nat → List Nat
  | 0, ps => ps
  | n + 1, ps =>
    let next := step ps
    if next = ps then ps else iterate step n next

/-- Where matches from the given places can end. -/
def ends (t : Array Char) : Regex → List Nat → List Nat
  | empty, ps => ps
  | set s, ps => (ps.filter fun p => (t[p]?.map s).getD false).map (· + 1)
  | anchor a, ps => ps.filter fun p => holdsAt t p a
  | seq a b, ps => ends t b (ends t a ps)
  | alt a b, ps => union (ends t a ps) (ends t b ps)
  | times a least most, ps =>
    let start := iterate (ends t a) least ps
    match most with
    | none => closure (ends t a) (t.size + 1) start start
    | some m => closure (ends t a) (min (m - least) (t.size + 1)) start start

/-- Whether a text has a match somewhere. -/
def search (r : Regex) (text : String) : Bool :=
  let t := text.toList.toArray
  r.ends t (List.range (t.size + 1)) ≠ []

/-- Whether a text is a match from its first to its last character. -/
def matchesAll (r : Regex) (text : String) : Bool :=
  let t := text.toList.toArray
  (r.ends t [0]).contains t.size

/-! ## reading -/

/-- The flags that are in force. -/
structure Flags where
  ignoreCase : Bool
  multiLine : Bool
  dotAll : Bool
deriving Inhabited

/-- A set under the flags. -/
def Flags.apply (f : Flags) (s : CharSet) : CharSet := if f.ignoreCase then s.ignoringCase else s

/-- The long names of categories and of their classes. -/
def longNames : List (String × String) :=
  [("letter", "L"), ("uppercaseletter", "Lu"), ("lowercaseletter", "Ll"), ("titlecaseletter", "Lt"),
    ("modifierletter", "Lm"), ("otherletter", "Lo"), ("mark", "M"), ("nonspacingmark", "Mn"),
    ("spacingmark", "Mc"), ("enclosingmark", "Me"), ("number", "N"), ("decimalnumber", "Nd"),
    ("digit", "Nd"), ("letternumber", "Nl"), ("othernumber", "No"), ("punctuation", "P"),
    ("punct", "P"), ("connectorpunctuation", "Pc"), ("dashpunctuation", "Pd"),
    ("openpunctuation", "Ps"), ("closepunctuation", "Pe"), ("initialpunctuation", "Pi"),
    ("finalpunctuation", "Pf"), ("otherpunctuation", "Po"), ("symbol", "S"), ("mathsymbol", "Sm"),
    ("currencysymbol", "Sc"), ("modifiersymbol", "Sk"), ("othersymbol", "So"), ("separator", "Z"),
    ("spaceseparator", "Zs"), ("lineseparator", "Zl"), ("paragraphseparator", "Zp"),
    ("other", "C"), ("control", "Cc"), ("cntrl", "Cc"), ("format", "Cf"), ("privateuse", "Co"),
    ("unassigned", "Cn"), ("alphabetic", "L"), ("uppercase", "Lu"), ("lowercase", "Ll")]

/-- The characters with a property; blanks, hyphens and case of its name do not
count. -/
def property? (name : List Char) : Option CharSet :=
  let plain := String.ofList (foldCase (name.filter fun c => !isBlank c && c ≠ '-' && c ≠ '_'))
  let short := ((longNames.find? fun n => n.1 = plain).map Prod.snd).getD plain
  let wanted := foldCase short.toList
  if plain = "any" then some fun _ => true
  else if plain = "ascii" then some fun c => c.toNat < 128
  else if plain = "whitespace" ∨ plain = "space" then some isBlank
  else
    let fits (cat : Category) : Bool := (foldCase cat.name.toList).take wanted.length = wanted
    if wanted ≠ [] ∧ Category.all.any fits then some fun c => fits (Category.of c)
    else none

/-- The classes that a letter behind a backslash stands for. -/
def perlClass? : Char → Option CharSet
  | 'd' => some .digit
  | 'D' => some (CharSet.complement .digit)
  | 's' => some isBlank
  | 'S' => some (CharSet.complement isBlank)
  | 'w' => some .word
  | 'W' => some (CharSet.complement .word)
  | _ => none

/-- A character given by hexadecimal digits: a fixed number of them, or any
number in braces. -/
def hexChar? (n : Nat) (cs : List Char) : Option (Char × List Char) := do
  let (digits, rest) ←
    match cs with
    | '\x7b' :: cs =>
      let ds := cs.takeWhile (· ≠ '\x7d')
      match cs.drop ds.length with
      | '\x7d' :: rest => some (ds, rest)
      | _ => none
    | cs => if (cs.take n).length = n then some (cs.take n, cs.drop n) else none
  let v := valueInBase 16 (← digits.mapM hexValue?)
  if digits ≠ [] ∧ v < 0x110000 ∧ ¬(0xD800 ≤ v ∧ v < 0xE000) then some (Char.ofNat v, rest) else none

/-- The character that an escape stands for, behind its backslash. -/
def escapedChar? : List Char → Option (Char × List Char)
  | 'n' :: cs => some ('\n', cs)
  | 't' :: cs => some ('\t', cs)
  | 'r' :: cs => some ('\r', cs)
  | 'f' :: cs => some ('\x0c', cs)
  | 'v' :: cs => some ('\x0b', cs)
  | 'a' :: cs => some ('\x07', cs)
  | 'x' :: cs => hexChar? 2 cs
  | 'u' :: cs => hexChar? 4 cs
  | 'U' :: cs => hexChar? 8 cs
  | c :: cs =>
    if c.toNat < 128 ∧ !c.isAlphanum ∧ c ≠ '<' ∧ c ≠ '>' ∧ 0x20 ≤ c.toNat then some (c, cs) else none
  | [] => none

/-- The set of a property escape, behind its letter. -/
def propertyEscape? (negated : Bool) (cs : List Char) : Option (CharSet × List Char) := do
  let (name, rest) ←
    match cs with
    | '\x7b' :: cs =>
      let name := cs.takeWhile (· ≠ '\x7d')
      match cs.drop name.length with
      | '\x7d' :: rest => some (name, rest)
      | _ => none
    | c :: cs => some ([c], cs)
    | [] => none
  let (flip, name) := match name with
    | '^' :: name => (true, name)
    | name => (false, name)
  let s ← property? name
  some (if negated != flip then s.complement else s, rest)

/-- The classes with a name in colons. -/
def namedClass? (name : String) : Option CharSet :=
  match name with
  | "alnum" => some fun c => c.isAlphanum
  | "alpha" => some fun c => c.isAlpha
  | "ascii" => some fun c => c.toNat < 128
  | "blank" => some fun c => c == ' ' || c == '\t'
  | "cntrl" => some fun c => c.toNat < 32 || c.toNat == 127
  | "digit" => some fun c => c.isDigit
  | "graph" => some fun c => 33 ≤ c.toNat && c.toNat < 127
  | "lower" => some fun c => c.isLower
  | "print" => some fun c => 32 ≤ c.toNat && c.toNat < 127
  | "punct" => some fun c => 33 ≤ c.toNat && c.toNat < 127 && !c.isAlphanum
  | "space" => some fun c => c == ' ' || (9 ≤ c.toNat && c.toNat ≤ 13)
  | "upper" => some fun c => c.isUpper
  | "word" => some fun c => c.isAlphanum || c == '_'
  | "xdigit" => some isHexDigit
  | _ => none

/-- A named class behind its opening bracket and colon. -/
def posixClass? (cs : List Char) : Option (CharSet × List Char) := do
  let (negated, cs) := match cs with
    | '^' :: cs => (true, cs)
    | cs => (false, cs)
  let name := cs.takeWhile Char.isAlpha
  match cs.drop name.length with
  | ':' :: ']' :: rest => do
    let s ← namedClass? (String.ofList name)
    some (if negated then s.complement else s, rest)
  | _ => none

/-- A character of a bracketed class, as itself or as an escape. -/
def classChar? : List Char → Option (Char × List Char)
  | '\\' :: cs => escapedChar? cs
  | c :: cs => some (c, cs)
  | [] => none

mutual

/-- A bracketed class behind its opening bracket. -/
def bracketed? : Nat → List Char → Option (CharSet × List Char)
  | 0, _ => none
  | fuel + 1, cs => do
    let (negated, cs) := match cs with
      | '^' :: cs => (true, cs)
      | cs => (false, cs)
    -- a bracket and hyphens in front stand for themselves
    let (s, rest) ←
      match cs with
      | ']' :: cs => members? fuel (fun c => c == ']') cs
      | cs => members? fuel (fun _ => false) cs
    some (if negated then s.complement else s, rest)

/-- The members of a bracketed class up to its closing bracket. -/
def members? : Nat → CharSet → List Char → Option (CharSet × List Char)
  | 0, _, _ => none
  | fuel + 1, s, cs =>
    match cs with
    | [] => none
    | ']' :: rest => some (s, rest)
    | '&' :: '&' :: rest => do
      let (more, rest) ← members? fuel (fun _ => false) rest
      some (fun c => s c && more c, rest)
    | '-' :: '-' :: rest => do
      let (more, rest) ← members? fuel (fun _ => false) rest
      some (fun c => s c && !more c, rest)
    | '~' :: '~' :: rest => do
      let (more, rest) ← members? fuel (fun _ => false) rest
      some (fun c => s c != more c, rest)
    | '[' :: rest => do
      let (inner, rest) ←
        match rest with
        | ':' :: name =>
          match posixClass? name with
          | some r => some r
          | none => bracketed? fuel rest
        | rest => bracketed? fuel rest
      members? fuel (fun c => s c || inner c) rest
    | cs => do
      let item : Option (CharSet × List Char) :=
        match cs with
        | '\\' :: 'p' :: rest => propertyEscape? false rest
        | '\\' :: 'P' :: rest => propertyEscape? true rest
        | '\\' :: c :: rest => (perlClass? c).map fun s => (s, rest)
        | _ => none
      match item with
      | some (inner, rest) => members? fuel (fun c => s c || inner c) rest
      | none => do
        let (a, rest) ← classChar? cs
        match rest with
        | '-' :: ']' :: _ => members? fuel (fun c => s c || c == a) rest
        | '-' :: '-' :: _ => members? fuel (fun c => s c || c == a) rest
        | '-' :: rest => do
          let (b, rest) ← classChar? rest
          if a ≤ b then members? fuel (fun c => s c || CharSet.range a b c) rest else none
        | rest => members? fuel (fun c => s c || c == a) rest

end

/-- A count in braces, behind the opening one. -/
def count? (cs : List Char) : Option (Nat × Option Nat × List Char) :=
  let a := cs.takeWhile isDigit
  if a = [] then none
  else
    let n := decimalValue a
    match cs.drop a.length with
    | '\x7d' :: rest => some (n, some n, rest)
    | ',' :: '\x7d' :: rest => some (n, none, rest)
    | ',' :: rest =>
      let b := rest.takeWhile isDigit
      match rest.drop b.length with
      | '\x7d' :: more =>
        if b ≠ [] ∧ n ≤ decimalValue b then some (n, some (decimalValue b), more) else none
      | _ => none
    | _ => none

/-- The repetitions behind an expression; whether they are lazy makes no
difference to whether there is a match. -/
def repeated? : Nat → Regex → List Char → Option (Regex × List Char)
  | 0, _, _ => none
  | fuel + 1, r, cs =>
    let lazily (cs : List Char) : List Char := match cs with
      | '?' :: cs => cs
      | cs => cs
    match cs with
    | '*' :: cs => repeated? fuel (.times r 0 none) (lazily cs)
    | '+' :: cs => repeated? fuel (.times r 1 none) (lazily cs)
    | '?' :: cs => repeated? fuel (.times r 0 (some 1)) (lazily cs)
    | '\x7b' :: cs => do
      let (n, m, cs) ← count? cs
      repeated? fuel (.times r n m) (lazily cs)
    | cs => some (r, cs)

/-- Flags up to a colon or a closing bracket, and whether it was the bracket. -/
def flags? (on : Bool) (f : Flags) : List Char → Option (Flags × Bool × List Char)
  | [] => none
  | c :: cs =>
    match c with
    | ')' => some (f, true, cs)
    | ':' => some (f, false, cs)
    | '-' => if on then flags? false f cs else none
    | 'i' => flags? on { f with ignoreCase := on } cs
    | 'm' => flags? on { f with multiLine := on } cs
    | 's' => flags? on { f with dotAll := on } cs
    | 'U' => flags? on f cs
    | 'u' => if on then flags? on f cs else none
    | _ => none

mutual

/-- Alternatives, up to a closing bracket or the end. -/
def alternatives? : Nat → Flags → List Char → Option (Regex × List Char)
  | 0, _, _ => none
  | fuel + 1, f, cs => do
    let (r, f, cs) ← sequence? fuel f .empty cs
    match cs with
    | '|' :: cs => do
      let (s, cs) ← alternatives? fuel f cs
      some (.alt r s, cs)
    | cs => some (r, cs)

/-- A sequence, behind the part of it that has been read. -/
def sequence? : Nat → Flags → Regex → List Char → Option (Regex × Flags × List Char)
  | 0, _, _, _ => none
  | fuel + 1, f, done, cs =>
    match cs with
    | [] => some (done, f, cs)
    | '|' :: _ => some (done, f, cs)
    | ')' :: _ => some (done, f, cs)
    | '(' :: '?' :: rest =>
      match rest with
      | 'P' :: '<' :: name => named? fuel f done name
      | '<' :: name => named? fuel f done name
      | rest => do
        let (g, closed, rest) ← flags? true f rest
        if closed then sequence? fuel g done rest else group? fuel f g done rest
    | '(' :: rest => group? fuel f f done rest
    | cs => do
      let (r, cs) ← atom? fuel f cs
      let (r, cs) ← repeated? (cs.length + 1) r cs
      sequence? fuel f (.seq done r) cs

/-- A group behind its opening, and the sequence it stands in. -/
def group? : Nat → Flags → Flags → Regex → List Char → Option (Regex × Flags × List Char)
  | 0, _, _, _, _ => none
  | fuel + 1, f, inner, done, cs => do
    let (r, cs) ← alternatives? fuel inner cs
    match cs with
    | ')' :: cs => do
      let (r, cs) ← repeated? (cs.length + 1) r cs
      sequence? fuel f (.seq done r) cs
    | _ => none

/-- A group with a name. -/
def named? : Nat → Flags → Regex → List Char → Option (Regex × Flags × List Char)
  | 0, _, _, _ => none
  | fuel + 1, f, done, cs =>
    let name := cs.takeWhile (· ≠ '>')
    match name, cs.drop name.length with
    | c :: _, '>' :: rest => if c.isAlpha ∨ c = '_' then group? fuel f f done rest else none
    | _, _ => none

/-- One character, class or anchor. -/
def atom? : Nat → Flags → List Char → Option (Regex × List Char)
  | 0, _, _ => none
  | fuel + 1, f, cs =>
    match cs with
    | [] => none
    | '.' :: cs => some (.set (if f.dotAll then fun _ => true else fun c => c != '\n'), cs)
    | '^' :: cs => some (.anchor (if f.multiLine then .lineStart else .textStart), cs)
    | '$' :: cs => some (.anchor (if f.multiLine then .lineEnd else .textEnd), cs)
    | '*' :: _ => none
    | '+' :: _ => none
    | '?' :: _ => none
    | '\x7b' :: _ => none
    | '[' :: cs => (bracketed? fuel cs).map fun (s, cs) => (.set (f.apply s), cs)
    | '\\' :: 'b' :: cs => some (.anchor .boundary, cs)
    | '\\' :: 'B' :: cs => some (.anchor .inside, cs)
    | '\\' :: 'A' :: cs => some (.anchor .textStart, cs)
    | '\\' :: 'z' :: cs => some (.anchor .textEnd, cs)
    | '\\' :: 'p' :: cs => (propertyEscape? false cs).map fun (s, cs) => (.set (f.apply s), cs)
    | '\\' :: 'P' :: cs => (propertyEscape? true cs).map fun (s, cs) => (.set (f.apply s), cs)
    | '\\' :: c :: cs =>
      match perlClass? c with
      | some s => some (.set s, cs)
      | none => (escapedChar? (c :: cs)).map fun (d, cs) => (.set (f.apply fun x => x == d), cs)
    | c :: cs => some (.set (f.apply fun x => x == c), cs)

end

/-- The expression of a text. -/
def parse? (text : String) : Option Regex :=
  let cs := text.toList
  match alternatives? (6 * cs.length + 6) ⟨false, false, false⟩ cs with
  | some (r, []) => some r
  | _ => none

end Regex

end HttpChain.Text
