import HttpChain.Config.Basic
import HttpChain.Prompt
import HttpChain.Text.Blank

/-!
# HttpChain.Setup

Setting up a config in a dialogue.  It asks for the base URL, for the user name
and the password if they are wanted, and for common headers up to the first
one without a name; the answers are then written over a config.
-/

namespace HttpChain

/-- The answers of a dialogue. -/
structure Setup where
  baseUrl : String
  credentials : Option (String × String)
  headers : List (String × String)
deriving DecidableEq, Inhabited

namespace Setup

/-- Write the answers over a config; an empty base URL leaves the one there. -/
def apply (s : Setup) (c : Config) : Config :=
  { c with
    baseUrl := if s.baseUrl = "" then c.baseUrl else some s.baseUrl
    auth := match s.credentials with
      | some (username, password) =>
        { c.auth with username := some username, password := some password }
      | none => c.auth
    headers := c.headers.insertAll s.headers }

/-- Ask for a line and cut the blanks around it. -/
def askText (question : String) : Prompt.Dialogue String := do
  let text ← Prompt.line question
  pure (Text.strip text)

/-- Ask for the user name and the password, if they are wanted. -/
def askCredentials : Prompt.Dialogue (Option (String × String)) := do
  if ← Prompt.confirm "Configure Basic Authentication?" then
    let username ← askText "Username:"
    let password ← Prompt.line "Password:"
    pure (some (username, password))
  else pure none

/-- The question for the name of a header. -/
def nameQuestion : String := "Header Name (leave empty to finish):"

/-- Ask for headers, at most the given number of times, up to one without a
name. -/
def askHeadersUpTo : Nat → Prompt.Dialogue (List (String × String))
  | 0 => throw (.unanswered nameQuestion)
  | n + 1 => do
    let name ← askText nameQuestion
    if name = "" then pure []
    else
      let value ← askText "Header Value:"
      let rest ← askHeadersUpTo n
      pure ((name, value) :: rest)

/-- Ask for headers, if they are wanted; each takes two lines, so there are
fewer of them than keys. -/
def askHeaders : Prompt.Dialogue (List (String × String)) := do
  if ← Prompt.confirm "Configure common headers?" then
    let keys ← get
    askHeadersUpTo (keys.length + 1)
  else pure []

/-- The dialogue. -/
def ask : Prompt.Dialogue Setup := do
  let baseUrl ← askText "Base URL:"
  let credentials ← askCredentials
  let headers ← askHeaders
  pure { baseUrl, credentials, headers }

end Setup

end HttpChain
