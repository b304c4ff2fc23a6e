import HttpChain.Http.Status
import HttpChain.Text.Ascii
import HttpChain.Text.Blank
import HttpChain.Text.Utf8

/-!
# HttpChain.Http.Response

Responses and the cookies they set.  Fields of one name stand together, at the
place of the first of them.
-/

namespace HttpChain

/-- A header field of a response: its name in lower case, and its bytes. -/
structure Field where
  name : String
  value : List UInt8
deriving DecidableEq, Inhabited

namespace Field

/-- Characters that the name of a field may hold. -/
def isNameChar (c : Char) : Bool :=
  c.isAlphanum || c ∈ ['!', '#', '$', '%', '&', '\'', '*', '+', '-', '.', '^', '_', '\x60', '|', '~']

/-- Texts that can name a field. -/
def isName (name : String) : Bool := name ≠ "" && name.toList.all isNameChar

/-- Bytes that the value of a field may hold: all but the controls, except for
the tab. -/
def isValueByte (b : UInt8) : Bool := (0x20 ≤ b && b ≠ 0x7F) || b == 9

/-- The field of a name and a value, if they can be one. -/
def ofText? (name value : String) : Option Field :=
  if isName name ∧ (Text.bytes value).all isValueByte then
    some ⟨String.ofList (Text.foldCase name.toList), Text.bytes value⟩
  else none

/-- The value as a text, if all of it is visible ASCII, spaces and tabs. -/
def text? (f : Field) : Option String :=
  if f.value.all fun b => (0x20 ≤ b && b < 0x7F) || b == 9 then
    some (String.ofList (f.value.map fun b => Char.ofNat b.toNat))
  else none

/-- Put a field behind the last one of its name. -/
def append (f : Field) : List Field → List Field
  | [] => [f]
  | g :: gs =>
    if g.name = f.name ∧ gs.all (·.name ≠ f.name) then g :: f :: gs else g :: append f gs

/-- Fields with those of one name together, in the order of their first ones. -/
def grouped (fs : List Field) : List Field := fs.foldl (fun acc f => append f acc) []

end Field

/-- A cookie: its name, and its value as it is written. -/
structure Cookie where
  name : String
  value : String
deriving DecidableEq, Inhabited

namespace Cookie

/-- The cookie of a field value: what stands before the first semicolon, split
at its first equals sign, without blanks around; the name is not empty. -/
def ofText? (text : String) : Option Cookie := do
  let pair := text.toList.takeWhile (· ≠ ';')
  let (name, value) ← Text.splitOnce '=' pair
  let name := Text.trim name
  if name = [] then none else some ⟨String.ofList name, String.ofList (Text.trim value)⟩

/-- The value without the quotes around it. -/
def unquoted (c : Cookie) : String :=
  match c.value.toList with
  | '"' :: cs => if cs.getLast? = some '"' then String.ofList cs.dropLast else c.value
  | _ => c.value

/-- The cookie as it is sent back. -/
def pair (c : Cookie) : String := c.name ++ "=" ++ c.unquoted

end Cookie

/-- A response, with the time it took in microseconds. -/
structure Response where
  status : Status
  fields : List Field
  body : String
  duration : Nat
deriving DecidableEq, Inhabited

namespace Response

/-- The cookies that a response sets, as far as their fields can be read. -/
def cookies (r : Response) : List Cookie :=
  (r.fields.filter fun f => f.name = "set-cookie").filterMap fun f => f.text?.bind Cookie.ofText?

/-- The first cookie of a name, as it is sent back. -/
def cookie? (r : Response) (name : String) : Option String :=
  (r.cookies.find? fun c => c.name = name).map Cookie.pair

/-- The time in whole milliseconds. -/
def milliseconds (r : Response) : Nat := r.duration / 1000

end Response

end HttpChain
