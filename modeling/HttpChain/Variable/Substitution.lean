import HttpChain.Text.Blank
import HttpChain.Variable.Context
import HttpChain.Variable.Encoding
import HttpChain.Variable.Template

/-!
# HttpChain.Variable.Substitution

Placeholders in templates.  A name in double braces is replaced by the text of
the variable it names, if there is one; a name is not empty, holds neither
braces nor blanks and does not start with a dollar sign.  Before that the
dynamic tokens `timestamp` and `uuid`, written behind a dollar sign, are
replaced by values drawn afresh for each of them.
-/

namespace HttpChain

/-- A token that is replaced by a value drawn on the spot. -/
inductive DynamicToken where
  | timestamp
  | uuid
deriving DecidableEq

/-- Where dynamic tokens get their values from: the seconds of the clock and
the 128-bit numbers of identifiers, by the number of the draw, and how many
draws have been made. -/
structure Draws where
  clock : Nat → Nat
  uuid : Nat → Nat
  taken : Nat

/-- A computation that draws values. -/
abbrev Drawing := StateM Draws

namespace Drawing

theorem pure_apply {α : Type} (a : α) (d : Draws) : (pure a : Drawing α) d = (a, d) := rfl

theorem bind_apply {α β : Type} (x : Drawing α) (f : α → Drawing β) (d : Draws) :
    (x >>= f) d = f (x d).1 (x d).2 := rfl

end Drawing

/-- A 128-bit number with the bits that mark it as a random identifier, a four
ahead of the last 76 bits and a two in the two bits ahead of the last 62. -/
def randomIdentifier (n : Nat) : Nat :=
  let ahead := n / Nat.pow 2 80 % Nat.pow 2 48
  let between := n / Nat.pow 2 64 % Nat.pow 2 12
  ((ahead * 16 + 4) * Nat.pow 2 12 + between) * Nat.pow 2 64 + 2 * Nat.pow 2 62 + n % Nat.pow 2 62

/-- A 128-bit number as 32 hexadecimal digits. -/
def uuidDigits (n : Nat) : List Char :=
  (List.range 32).map fun i => Text.lowerHex (n / Nat.pow 16 (31 - i) % 16)

/-- The value of the next draw. -/
def Draws.value (d : Draws) : DynamicToken → List Char
  | .timestamp => Text.decimal (d.clock d.taken)
  | .uuid => uuidDigits (d.uuid d.taken)

/-- Draw a value. -/
def DynamicToken.draw (t : DynamicToken) : Drawing (List Char) := fun d =>
  (d.value t, { d with taken := d.taken + 1 })

namespace Placeholder

/-- Characters that a name may hold. -/
def isNameChar (c : Char) : Bool := c ≠ '\x7b' && c ≠ '\x7d' && !Text.isBlank c

/-- A placeholder at the front of a text. -/
def grammar : Template.Grammar String
  | '\x7b' :: '\x7b' :: cs =>
    let name := cs.takeWhile isNameChar
    match name, cs.dropWhile isNameChar with
    | c :: _, '\x7d' :: '\x7d' :: _ =>
      if c = '$' then none else some (String.ofList name, name.length + 3)
    | _, _ => none
  | _ => none

/-- A dynamic token at the front of a text. -/
def dynamic : Template.Grammar DynamicToken
  | '\x7b' :: '\x7b' :: '$' :: cs =>
    match Text.after? "timestamp\x7d\x7d".toList cs, Text.after? "uuid\x7d\x7d".toList cs with
    | some _, _ => some (.timestamp, 13)
    | _, some _ => some (.uuid, 8)
    | _, _ => none
  | _ => none

/-- Draw a value for each dynamic token, from the left. -/
def drawAll : List (Template.Part DynamicToken) → Drawing (List Char)
  | [] => pure []
  | .char c :: ps => do
    let rest ← drawAll ps
    pure (c :: rest)
  | .ref t _ :: ps => do
    let value ← t.draw
    let rest ← drawAll ps
    pure (value ++ rest)

/-- Replace the dynamic tokens of a text. -/
def expandDynamic (cs : List Char) : Drawing (List Char) :=
  drawAll (Template.parts dynamic cs)

/-- Replace the placeholders of a text that name a variable. -/
def expandNames (enc : Encoding) (ctx : Context) (cs : List Char) : List Char :=
  Template.expand grammar (fun name => (ctx.text? name).map fun s => enc.apply s.toList) cs

end Placeholder

/-- Replace the dynamic tokens of a text and then its placeholders. -/
def substituteChars (enc : Encoding) (ctx : Context) (cs : List Char) : Drawing (List Char) := do
  let expanded ← Placeholder.expandDynamic cs
  pure (Placeholder.expandNames enc ctx expanded)

/-- Replace the dynamic tokens of a text and then its placeholders. -/
def substitute (enc : Encoding) (ctx : Context) (text : String) : Drawing String := do
  let cs ← substituteChars enc ctx text.toList
  pure (String.ofList cs)

namespace Context

/-- The text of each step variable, all in the same context. -/
def localValues (ctx : Context) : List (String × String) → Drawing (List (String × Json))
  | [] => pure []
  | (name, template) :: rest => do
    let text ← substitute .plain ctx template
    let others ← ctx.localValues rest
    pure ((name, .string text) :: others)

/-- A context overlaid with the variables of one step, whose values are
templates in the context itself. -/
def withLocals (ctx : Context) (locals : List (String × String)) : Drawing Context := do
  let values ← ctx.localValues locals
  pure (ctx.insertAll values)

end Context

end HttpChain
