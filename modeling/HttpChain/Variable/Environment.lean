import HttpChain.Variable.Template

/-!
# HttpChain.Variable.Environment

References of the form `${NAME}` to the process environment, where a
name is an upper-case letter or an underscore followed by such characters and
digits.  A name that is not set stays as written, and an inserted value is not
expanded again.
-/

namespace HttpChain

/-- The variables of a process: the value of each name that is set. -/
abbrev Environment := String → Option String

namespace Environment

/-- Characters that a name may start with. -/
def isNameStart (c : Char) : Bool := c.isUpper || c == '_'

/-- Characters that a name may hold. -/
def isNameChar (c : Char) : Bool := isNameStart c || c.isDigit

/-- A reference at the front of a text. -/
def reference : Template.Grammar String
  | '$' :: '\x7b' :: cs =>
    let name := cs.takeWhile isNameChar
    match name, cs.dropWhile isNameChar with
    | c :: _, '\x7d' :: _ =>
      if isNameStart c then some (String.ofList name, name.length + 2) else none
    | _, _ => none
  | _ => none

/-- Expand the references of a text. -/
def expandChars (env : Environment) (cs : List Char) : List Char :=
  Template.expand reference (fun name => (env name).map String.toList) cs

/-- Expand the references of a text. -/
def expand (env : Environment) (text : String) : String :=
  String.ofList (env.expandChars text.toList)

/-- The environment of a list of settings, the last of each name. -/
def ofList (settings : List (String × String)) : Environment := fun name =>
  (settings.reverse.find? fun s => s.1 = name).map Prod.snd

end Environment

end HttpChain
