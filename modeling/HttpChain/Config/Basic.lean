import HttpChain.Dict
import HttpChain.Error
import HttpChain.Text.Ascii

/-!
# HttpChain.Config.Basic

Configs: the saved requests and chains, and what all requests share.  A chain
is kept as it is written, its operators and status codes unread; a step holds
further steps below the statuses they belong to.
-/

namespace HttpChain

/-- A saved request, whose texts are templates. -/
structure RequestTemplate where
  method : String
  url : String
  body : String
  headers : List String
  noAuth : Bool
  noHeaders : Bool
  extractCookie : Option String
  extractToConfig : Dict String
deriving DecidableEq, Inhabited

/-- A request with nothing but a method and a URL. -/
def RequestTemplate.bare (method url : String) : RequestTemplate :=
  ⟨method, url, "", [], false, false, none, {}⟩

/-- How requests authenticate. -/
structure Auth where
  username : Option String
  password : Option String
  cookie : Option String
deriving DecidableEq, Inhabited

/-- Whether there is nothing to authenticate with. -/
def Auth.isEmpty (a : Auth) : Bool := a.username.isNone && a.password.isNone && a.cookie.isNone

/-- An assertion as it is written. -/
structure RawAssertion where
  left : String
  operator : String
  right : String
deriving DecidableEq, Inhabited

/-- What a step does itself, as it is written. -/
structure RawAction where
  request : String
  extract : Dict String
  assertions : List RawAssertion
  locals : Dict String
deriving DecidableEq, Inhabited

/-- A step as it is written: what it does, and the steps below each status. -/
inductive RawStep where
  | mk (action : RawAction) (onStatus : List (String × List RawStep))
deriving BEq

instance : Inhabited RawStep := ⟨.mk default []⟩

namespace RawStep

/-- What a step does itself. -/
def action : RawStep → RawAction
  | mk a _ => a

/-- The steps below each status. -/
def onStatus : RawStep → List (String × List RawStep)
  | mk _ b => b

end RawStep

/-- A config. -/
structure Config where
  baseUrl : Option String
  timeout : Option UInt64
  headers : Dict String
  auth : Auth
  requests : Dict RequestTemplate
  chains : Dict (List RawStep)

namespace Config

instance : BEq Config where
  beq a b :=
    a.baseUrl == b.baseUrl && a.timeout == b.timeout && a.headers == b.headers && a.auth == b.auth &&
      a.requests == b.requests && a.chains.entries == b.chains.entries

/-- The config in which nothing is set. -/
def empty : Config := ⟨none, none, {}, ⟨none, none, none⟩, {}, {}⟩

instance : Inhabited Config := ⟨empty⟩

/-- The saved request of a name. -/
def request (c : Config) (name : String) : Except Error RequestTemplate :=
  match c.requests.get? name with
  | some t => pure t
  | none => throw (.unknownRequest name)

/-- The steps of a chain, as they are written. -/
def chainSteps (c : Config) (name : String) : Except Error (List RawStep) :=
  match c.chains.get? name with
  | some steps => pure steps
  | none => throw (.unknownChain name)

/-- Whether there is a chain of a name. -/
def hasChain (c : Config) (name : String) : Bool := (c.chains.get? name).isSome

/-- Save a request, in place of the one that had its name. -/
def saveRequest (c : Config) (name : String) (t : RequestTemplate) : Config :=
  { c with requests := c.requests.insert name t }

/-- A value of a config that can be written by its key. -/
inductive Setting where
  | baseUrl
  | username
  | password
  | cookie
  | header (name : String)
deriving DecidableEq

/-- The setting that a key names. -/
def Setting.ofKey? (key : String) : Option Setting :=
  match key with
  | "base_url" => some baseUrl
  | "auth.username" => some username
  | "auth.password" => some password
  | "auth.cookie" => some cookie
  | _ =>
    match Text.after? "headers.".toList key.toList with
    | some (c :: cs) => some (header (String.ofList (c :: cs)))
    | _ => none

/-- Write a setting. -/
def set (c : Config) (value : String) : Setting → Config
  | .baseUrl => { c with baseUrl := some value }
  | .username => { c with auth := { c.auth with username := some value } }
  | .password => { c with auth := { c.auth with password := some value } }
  | .cookie => { c with auth := { c.auth with cookie := some value } }
  | .header name => { c with headers := c.headers.insert name value }

/-- Write the setting that a key names. -/
def setValue (c : Config) (key value : String) : Except Error Config :=
  match Setting.ofKey? key with
  | some s => pure (c.set value s)
  | none => throw (.config (.key key))

end Config

end HttpChain
