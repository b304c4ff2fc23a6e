import HttpChain.Config.Basic
import HttpChain.Http.Request
import HttpChain.Log
import HttpChain.Url.Parser
import HttpChain.Variable.Environment
import HttpChain.Variable.Substitution

/-!
# HttpChain.Resolve

From a saved request to one that can be sent.  Variables are put into the
texts of the template, with the query encoding in its URL; references to the
environment are expanded in the config's own values and nowhere else.  Headers
come from three places, each of which overrides the ones before: the common
headers, the cookie of the config, and the lines of the template.
-/

namespace HttpChain

namespace Config

/-- The base URL with the environment put in, empty if there is none. -/
def base (c : Config) (env : Environment) : String := (c.baseUrl.map env.expand).getD ""

/-- Join a path to a base with one slash between them; a text that starts like
an HTTP URL stands alone. -/
def joinUrl (base url : String) : String :=
  if (Text.after? "http".toList url.toList).isSome ∨ base = "" then url
  else
    let b := base.toList
    match url.toList with
    | '/' :: path =>
      if b.getLast? = some '/' then String.ofList (b ++ path) else base ++ url
    | _ => if b.getLast? = some '/' then base ++ url else base ++ "/" ++ url

/-- The URL that a text stands for under a config. -/
def absoluteUrl (c : Config) (env : Environment) (url : String) : String := joinUrl (c.base env) url

/-- The common headers with the environment put in. -/
def commonHeaders (c : Config) (env : Environment) : HeaderList :=
  c.headers.toList.foldl (fun hs h => hs.set h.1 (env.expand h.2)) []

/-- The user name and the password, if there is a user name. -/
def credentials (c : Config) (env : Environment) : Option (String × String) :=
  match c.auth.username.filter (· ≠ "") with
  | some name => some (env.expand name, env.expand (c.auth.password.getD ""))
  | none => none

/-- The cookie that the config sends, if it is not empty. -/
def cookie (c : Config) (env : Environment) : Option String :=
  (c.auth.cookie.filter (· ≠ "")).map env.expand

/-- The headers that a template starts from. -/
def sharedHeaders (c : Config) (env : Environment) (t : RequestTemplate) : HeaderList :=
  let common : HeaderList := if t.noHeaders then [] else c.commonHeaders env
  match if t.noAuth then none else c.cookie env with
  | some cookie => common.set "Cookie" cookie
  | none => common

end Config

/-- Put variables into texts, one after the other. -/
def substituteAll (ctx : Context) : List String → Drawing (List String)
  | [] => pure []
  | t :: ts => do
    let s ← substitute .plain ctx t
    let ss ← substituteAll ctx ts
    pure (s :: ss)

/-- The event of a header line that is none. -/
def malformedLine (line : String) : Log.Event :=
  ⟨.warn, .resolving, "ignoring malformed header '" ++ line ++ "'"⟩

/-- Write the headers of lines, each over the ones before it. -/
def HeaderList.setLines (headers : HeaderList) (lines : List String) : HeaderList :=
  lines.foldl (fun hs l => (hs.setLine? l).getD hs) headers

/-- The events of the lines that are no headers. -/
def malformedLines (lines : List String) : List Log.Event :=
  (lines.filter fun l => (HeaderList.line? l).isNone).map malformedLine

namespace Config

/-- The URL that a template leads to. -/
def resolveUrl (c : Config) (env : Environment) (ctx : Context) (template : String) :
    Drawing (Except Error String) := do
  let text ← substitute .query ctx template
  let url := c.absoluteUrl env text
  match Url.parse url with
  | .ok _ => pure (.ok url)
  | .error f => pure (.error (.config (.url url f)))

/-- The request of a template whose method and URL are known. -/
def assemble (c : Config) (env : Environment) (ctx : Context) (t : RequestTemplate)
    (method : Method) (url : String) : Drawing (Request × List Log.Event) := do
  let lines ← substituteAll ctx t.headers
  let body ← substitute .plain ctx t.body
  let request : Request :=
    { method, url
      headers := (c.sharedHeaders env t).setLines lines
      body := if body = "" then none else some (Body.ofText body)
      credentials := if t.noAuth then none else c.credentials env }
  pure (request, malformedLines lines)

/-- The request of a template in a context, and what there is to say about it. -/
def resolve (c : Config) (env : Environment) (t : RequestTemplate) (ctx : Context) :
    Drawing (Except Error (Request × List Log.Event)) :=
  match Method.ofText? t.method with
  | none => pure (.error (.config (.method t.method)))
  | some method => do
    match ← c.resolveUrl env ctx t.url with
    | .error e => pure (.error e)
    | .ok url => do
      let r ← c.assemble env ctx t method url
      pure (.ok r)

/-- The request of the template that has a name. -/
def resolveNamed (c : Config) (env : Environment) (name : String) (ctx : Context) :
    Drawing (Except Error (Request × List Log.Event)) :=
  match c.request name with
  | .error e => pure (.error e)
  | .ok t => c.resolve env t ctx

end Config

end HttpChain
