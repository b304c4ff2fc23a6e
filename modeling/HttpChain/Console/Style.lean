import HttpChain.Http.Status
import HttpChain.Text.Ascii

/-!
# HttpChain.Console.Style

Styled text for terminals: a text between the sequence that starts a style and
the one that ends all of them.  Where the text itself ends a style, its own is
started again.
-/

namespace HttpChain.Console

/-- The colours in use. -/
inductive Color where
  | red
  | green
  | yellow
  | blue
  | cyan
  | white
deriving DecidableEq

namespace Color

/-- The name of a colour. -/
def name : Color → String
  | red => "Red"
  | green => "Green"
  | yellow => "Yellow"
  | blue => "Blue"
  | cyan => "Cyan"
  | white => "White"

/-- The code of a colour. -/
def code : Color → Nat
  | red => 31
  | green => 32
  | yellow => 33
  | blue => 34
  | cyan => 36
  | white => 37

/-- The colour of a status: each family has its own. -/
def ofStatus (s : Status) : Color :=
  match s.family with
  | .success => green
  | .redirect => cyan
  | .clientError => yellow
  | .serverError => red
  | .informational => white

end Color

/-- A style. -/
inductive Style where
  | bold
  | dimmed
  | colored (c : Color)
  | boldColored (c : Color)
deriving DecidableEq

/-- The codes of a style. -/
def Style.codes : Style → List Char
  | bold => ['1']
  | dimmed => ['2']
  | colored c => Text.decimal c.code
  | boldColored c => '1' :: ';' :: Text.decimal c.code

/-- The sequence that starts a style. -/
def Style.opening (s : Style) : List Char := '\x1b' :: '[' :: (s.codes ++ ['m'])

/-- The sequence that ends all styles. -/
def closing : List Char := ['\x1b', '[', '0', 'm']

/-- Start a style again behind each end of all styles. -/
def reopen (start : List Char) : List Char → List Char
  | '\x1b' :: '[' :: '0' :: 'm' :: cs => closing ++ start ++ reopen start cs
  | c :: cs => c :: reopen start cs
  | [] => []

/-- A text in a style, where styles are shown. -/
def styled (shown : Bool) (s : Style) (text : String) : String :=
  if shown then String.ofList (s.opening ++ reopen s.opening text.toList ++ closing) else text

end HttpChain.Console
