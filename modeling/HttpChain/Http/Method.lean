import HttpChain.Text.Blank

/-!
# HttpChain.Http.Method

The request methods.  A method is read from any spelling whose upper-case form
is its name; upper-casing is Unicode's, so characters outside ASCII count as
the ASCII letters they map to.
-/

namespace HttpChain

/-- A request method. -/
inductive Method where
  | get
  | post
  | put
  | delete
  | patch
  | head
  | options
deriving DecidableEq, Inhabited

namespace Method

/-- Every method. -/
def all : List Method := [get, post, put, delete, patch, head, options]

/-- The name of a method. -/
def name : Method → String
  | get => "GET"
  | post => "POST"
  | put => "PUT"
  | delete => "DELETE"
  | patch => "PATCH"
  | head => "HEAD"
  | options => "OPTIONS"

/-- The upper-case form of a character, as far as it consists of ASCII
characters; every other character stands for itself.  Besides the small
letters of ASCII these are the dotless i, the long and the sharp s and the
Latin ligatures. -/
def upperCase (c : Char) : List Char :=
  match c with
  | 'ı' => ['I']
  | 'ſ' => ['S']
  | 'ß' => ['S', 'S']
  | 'ﬀ' => ['F', 'F']
  | 'ﬁ' => ['F', 'I']
  | 'ﬂ' => ['F', 'L']
  | 'ﬃ' => ['F', 'F', 'I']
  | 'ﬄ' => ['F', 'F', 'L']
  | 'ﬅ' => ['S', 'T']
  | 'ﬆ' => ['S', 'T']
  | c => [c.toUpper]

/-- The method that a text names. -/
def ofText? (text : String) : Option Method :=
  all.find? fun m => m.name.toList = (Text.trim text.toList).flatMap upperCase

end Method

end HttpChain
