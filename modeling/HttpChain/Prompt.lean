import HttpChain.Text.Category

/-!
# HttpChain.Prompt

Asking for lines and asking questions on a terminal.  A prompt takes keys from
the front of those that are pressed and leaves the rest to the next one.
-/

namespace HttpChain

/-- A key. -/
inductive Key where
  | char (c : Char)
  | enter
  | backspace
  | escape
  | interrupt
deriving DecidableEq, Inhabited

/-- The key that sends a character. -/
def Key.ofChar (c : Char) : Key :=
  match c with
  | '\r' => enter
  | '\x7f' => backspace
  | '\x1b' => escape
  | '\x03' => interrupt
  | c => char c

namespace Prompt

/-- Why a prompt has no answer; the last is that the keys end before the answer
to a question. -/
inductive Fault where
  | canceled
  | interrupted
  | noTerminal
  | unanswered (question : String)
deriving DecidableEq, Inhabited

/-- The text of a fault. -/
def Fault.message : Fault → String
  | canceled => "Operation was canceled by the user"
  | interrupted => "Operation was interrupted by the user"
  | noTerminal => "The input device is not a TTY"
  | unanswered _ => "The input ended before the answer"

/-- A dialogue: it takes keys from the front and may end with a fault. -/
abbrev Dialogue := StateT (List Key) (Except Fault)

/-- Characters that stand on the one before them. -/
def isMark (c : Char) : Bool :=
  match Text.Category.of c with
  | .nonspacingMark => true
  | .spacingMark => true
  | .enclosingMark => true
  | _ => c == '\u200d'

/-- Cut the last character, with the marks on it. -/
def eraseLast (typed : List Char) : List Char := ((typed.reverse.dropWhile isMark).drop 1).reverse

/-- Read keys up to the end of the line that answers a question, behind what is
typed already. -/
def lineBehind (question : String) (typed : List Char) :
    List Key → Except Fault (List Char × List Key)
  | [] => throw (.unanswered question)
  | .enter :: keys => pure (typed, keys)
  | .escape :: _ => throw .canceled
  | .interrupt :: _ => throw .interrupted
  | .backspace :: keys => lineBehind question (eraseLast typed) keys
  | .char c :: keys => lineBehind question (typed ++ [c]) keys

/-- Ask for a line. -/
def line (question : String) : Dialogue String := fun keys =>
  (lineBehind question [] keys).map fun (typed, keys) => (String.ofList typed, keys)

/-- The answer that a line gives to a question; an empty line denies it. -/
def answer? (typed : List Char) : Option Bool :=
  match String.ofList (Text.foldCase typed) with
  | "" => some false
  | "y" => some true
  | "yes" => some true
  | "n" => some false
  | "no" => some false
  | _ => none

theorem length_lineBehind {question : String} {typed : List Char} {keys : List Key}
    {result : List Char × List Key}
    (h : lineBehind question typed keys = .ok result) : result.2.length < keys.length := by
  fun_induction lineBehind question typed keys with
  | case1 => simp [throw, throwThe, MonadExceptOf.throw] at h
  | case2 typed keys =>
    obtain rfl : (typed, keys) = result := by simpa [pure, Except.pure] using h
    simp
  | case3 => simp [throw, throwThe, MonadExceptOf.throw] at h
  | case4 => simp [throw, throwThe, MonadExceptOf.throw] at h
  | case5 _ _ ih => exact Nat.lt_succ_of_lt (ih h)
  | case6 _ _ _ ih => exact Nat.lt_succ_of_lt (ih h)

/-- Ask a question, with what is typed already, until a line answers it by yes or
no; what does not stays to be mended. -/
def confirmBehind (question : String) (typed : List Char) (keys : List Key) :
    Except Fault (Bool × List Key) :=
  match h : lineBehind question typed keys with
  | .error f => throw f
  | .ok (typed, rest) =>
    match answer? typed with
    | some b => pure (b, rest)
    | none =>
      have : rest.length < keys.length := length_lineBehind h
      confirmBehind question typed rest
termination_by keys.length

/-- Ask a question that is answered by yes or no. -/
def confirm (question : String) : Dialogue Bool := confirmBehind question []

end Prompt

end HttpChain
