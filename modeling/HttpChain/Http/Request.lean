import HttpChain.Http.Method
import HttpChain.Text.Ascii

/-!
# HttpChain.Http.Request

Requests that are ready to be sent.  The headers are a list in which no two
names are equal up to the case of ASCII letters: writing a header drops the
one that had its name and goes to the end.
-/

namespace HttpChain

/-- Header names with their values, in order. -/
abbrev HeaderList := List (String × String)

namespace HeaderList

/-- Write a header. -/
def set (headers : HeaderList) (name value : String) : HeaderList :=
  headers.filter (fun h => !Text.sameName h.1 name) ++ [(name, value)]

/-- The value of a header. -/
def get? (headers : HeaderList) (name : String) : Option String :=
  (headers.find? fun h => Text.sameName h.1 name).map Prod.snd

/-- The name and the value of a header line: what stands before and behind its
first colon, without blanks around. -/
def line? (text : String) : Option (String × String) := do
  let (name, value) ← Text.splitOnce ':' text.toList
  let name := Text.trim name
  if name = [] then none else some (String.ofList name, String.ofList (Text.trim value))

/-- Write the header of a line, if it is one. -/
def setLine? (headers : HeaderList) (text : String) : Option HeaderList :=
  (line? text).map fun (name, value) => headers.set name value

end HeaderList

/-- What a request carries: a text, or the content of a file. -/
inductive Body where
  | text (content : String)
  | file (path : String)
deriving DecidableEq, Inhabited

/-- A body as it is written in a template: an at sign and a path name a file. -/
def Body.ofText (text : String) : Body :=
  match text.toList with
  | '@' :: path =>
    if Text.trim path = [] then .text text else .file (String.ofList (Text.trim path))
  | _ => .text text

/-- A request that is ready to be sent. -/
structure Request where
  method : Method
  url : String
  headers : HeaderList
  body : Option Body
  credentials : Option (String × String)
deriving DecidableEq, Inhabited

namespace Request

/-- A request with nothing but a method and a URL. -/
def bare (method : Method) (url : String) : Request := ⟨method, url, [], none, none⟩

/-- Write a header of a request. -/
def setHeader (r : Request) (name value : String) : Request :=
  { r with headers := r.headers.set name value }

/-- The value of a header of a request. -/
def header? (r : Request) (name : String) : Option String := r.headers.get? name

/-- The path of the file that a request carries, if it carries one. -/
def attachment? (r : Request) : Option String :=
  match r.body with
  | some (.file path) => some path
  | _ => none

/-- The method and the URL. -/
def display (r : Request) : String := r.method.name ++ " " ++ r.url

end Request

end HttpChain
