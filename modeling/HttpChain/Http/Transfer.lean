import HttpChain.Files
import HttpChain.Http.Request
import HttpChain.Http.Response
import HttpChain.Log
import HttpChain.Text.Base64
import HttpChain.Text.Charset
import HttpChain.Url.Parser

/-!
# HttpChain.Http.Transfer

Requests as they go out and responses as they come in.  A user name in a URL
moves into a header, the content of a file is read, and names and values that
no header can have are refused; of a response, the body is read as text.
-/

namespace HttpChain

/-- A request as it goes out. -/
structure Outgoing where
  method : Method
  url : Url
  fields : List Field
  content : List UInt8
deriving DecidableEq, Inhabited

/-- A response as it comes in; it is not complete if it ended before its body
did. -/
structure Incoming where
  status : Nat
  fields : List Field
  content : List UInt8
  complete : Bool
  duration : Nat
deriving DecidableEq, Inhabited

/-- The event of an exchange. -/
def exchangeEvent (text : String) : Log.Event := ⟨.debug, .exchange, text⟩

/-! ## going out -/

namespace Outgoing

/-- The field of a user name and a password. -/
def authorization (name password : String) : Field :=
  ⟨"authorization",
    Text.bytes ("Basic " ++ String.ofList (Text.base64 (Text.bytes (name ++ ":" ++ password))))⟩

/-- The user name and the password in a URL, if they can be read. -/
def urlCredentials? (u : Url) : Option (String × String) :=
  if u.username = [] ∧ u.password = [] then none
  else do
    let name ← Text.decode? (Url.percentDecode u.username)
    let password := (Text.decode? (Url.percentDecode u.password)).getD ""
    if name = "" ∧ u.password = [] then none else some (name, password)

/-- The content of a request. -/
def content? (t : FileTree) : Option Body → Except Error (List UInt8)
  | none => pure []
  | some (.text s) => pure (Text.bytes s)
  | some (.file path) =>
    match t.read path with
    | .ok bytes => pure bytes
    | .error f => throw (.file f)

/-- Characters of host names that no request can be sent to. -/
def isUnsendable (c : Char) : Bool := c == '"' || c == '\x60' || c == '\x7b' || c == '\x7d'

/-- Whether a request can be sent to a URL. -/
def isSendable (u : Url) : Bool :=
  (u.scheme = "http".toList || u.scheme = "https".toList) && !u.authority.any isUnsendable &&
    u.toChars.length ≤ 65534

/-- The fields of headers, if all of them can be fields. -/
def fields? (headers : HeaderList) : Option (List Field) :=
  headers.mapM fun h => Field.ofText? h.1 h.2

/-- The fields that are added where they are missing. -/
def completed (u : Url) (content : List UInt8) (fs : List Field) : List Field :=
  let missing (name value : String) : List Field :=
    if fs.any fun f => f.name = name then [] else [⟨name, Text.bytes value⟩]
  fs ++ missing "accept" "*/*" ++ missing "host" (String.ofList u.authority) ++
    (if content = [] then [] else missing "content-length" (toString content.length))

/-- The first line of a request that goes through a proxy. -/
def requestLine (o : Outgoing) : String :=
  o.method.name ++ " " ++
    String.ofList o.url.withoutUserInfo.withoutFragment.toChars ++ " HTTP/1.1"

/-- The error of an exchange that ended before the response began. -/
def unanswered (o : Outgoing) : Error := .http (.sending (String.ofList o.url.toChars))

end Outgoing

/-- The request as it goes out, if it can, and what there is to say about it. -/
def Request.outgoing (t : FileTree) (r : Request) : Except Error Outgoing × List Log.Event :=
  match Url.parse r.url with
  | .error f => (.error (.url f), [])
  | .ok url =>
    match Outgoing.content? t r.body with
    | .error e => (.error e, [])
    | .ok content =>
      let said := [exchangeEvent ("-> " ++ r.display)]
      match Outgoing.fields? r.headers with
      | none => (.error (.http (.building none)), said)
      | some fields =>
        let known := Outgoing.urlCredentials? url
        let bare := if known.isSome then url.withoutUserInfo else url
        if Outgoing.isSendable bare then
          let auth (c : Option (String × String)) : List Field :=
            (c.map fun c => Outgoing.authorization c.1 c.2).toList
          let all := auth known ++ fields ++ auth r.credentials
          (.ok ⟨r.method, bare, Outgoing.completed bare content all, content⟩, said)
        else (.error (.http (.building (some (String.ofList bare.toChars)))), said)

/-! ## coming in -/

namespace Incoming

/-- Whether a response to a method has a body at all. -/
def hasBody (i : Incoming) (m : Method) : Bool :=
  m ≠ .head && i.status ≠ 204 && i.status ≠ 304 && 200 ≤ i.status

/-- The value of a parameter: what stands in quotes, or a text without any. -/
def parameterValue? : List Char → Option (List Char × List Char)
  | '"' :: cs =>
    let value := cs.takeWhile (· ≠ '"')
    match cs.drop value.length with
    | '"' :: rest => some (value, rest)
    | _ => none
  | cs =>
    let value := cs.takeWhile Field.isNameChar
    if value = [] then none else some (value, cs.drop value.length)

/-- The parameters of a media type, at most the given number, behind its name;
none if any of them is malformed. -/
def parameters? : Nat → List Char → Option (List (List Char × List Char))
  | _, [] => some []
  | 0, _ => none
  | n + 1, ';' :: cs => do
    let cs := cs.dropWhile (· == ' ')
    let name := cs.takeWhile Field.isNameChar
    match name, cs.drop name.length with
    | _ :: _, '=' :: cs =>
      let (value, cs) ← parameterValue? cs
      let rest ← parameters? n (cs.dropWhile (· == ' '))
      pure ((Text.foldCase name, value) :: rest)
    | [], [] => some []
    | _, _ => none
  | _, _ => none

/-- What stands behind the name of a media type, two words with a slash between
them. -/
def behindMediaType? (cs : List Char) : Option (List Char) := do
  let (general, rest) ← Text.splitOnce '/' cs
  let special := rest.takeWhile Field.isNameChar
  if general ≠ [] ∧ general.all Field.isNameChar ∧ special ≠ [] then some (rest.drop special.length)
  else none

/-- The character set that a media type names, if it names a known one. -/
def charset? (mediaType : String) : Option Text.Charset := do
  let rest ← behindMediaType? mediaType.toList
  let parameters ← parameters? mediaType.length (rest.dropWhile (· == ' '))
  let value ← parameters.lookup "charset".toList
  Text.Charset.ofLabel? (String.ofList value)

/-- The character set of a body: the one that its media type names, or UTF-8. -/
def charset (fields : List Field) : Text.Charset :=
  let mediaType := (fields.find? fun (f : Field) => f.name = "content-type").bind Field.text?
  (mediaType.bind charset?).getD .utf8

/-- The body as a text. -/
def text (i : Incoming) : String := (charset i.fields).decode i.content

end Incoming

/-- Take in the response to a request, if one came, and what there is to say
about it. -/
def Outgoing.receive (o : Outgoing) : Option Incoming → Except Error Response × List Log.Event
  | none => (.error o.unanswered, [])
  | some i =>
    if i.hasBody o.method ∧ !i.complete then
      (.error (.http (.decoding (String.ofList o.url.toChars))), [])
    else
      let body := if i.hasBody o.method then i.text else ""
      let said := [exchangeEvent
        ("<- " ++ toString i.status ++ " (" ++ toString (i.duration / 1000) ++ "ms)")]
      match Status.ofCode? i.status with
      | some status => (.ok ⟨status, Field.grouped i.fields, body, i.duration⟩, said)
      | none => (.error (.statusOutOfRange i.status), said)

end HttpChain
