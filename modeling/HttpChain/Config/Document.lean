import HttpChain.Config.Basic
import HttpChain.Toml.Basic

/-!
# HttpChain.Config.Document

Configs as TOML documents.  What is absent or has its default value is left out
of the document, and reading puts it back.  Operands of assertions and step
variables may be written as numbers and booleans; they stand for their texts.
A table whose keys are known may also be written as the array of their values,
in order.  Keys that a config does not know are passed over.
-/

namespace HttpChain

open Toml (valueAt?)

/-! ## fields -/

namespace Toml

/-- An entry that is left out when there is no value. -/
def optional (key : String) : Option Toml → List (String × Toml)
  | some v => [(key, v)]
  | none => []

/-- A table of texts. -/
def ofTexts (d : Dict String) : Toml := table (d.toList.map fun e => (e.1, string e.2))

/-- A table of texts that is left out when it is empty. -/
def texts (key : String) (d : Dict String) : List (String × Toml) :=
  if d.isEmpty then [] else [(key, ofTexts d)]

/-- A text. -/
def text? : Toml → Option String
  | string s => some s
  | _ => none

/-- A truth value. -/
def bool? : Toml → Option Bool
  | bool b => some b
  | _ => none

/-- The text of a scalar; of integers, those outside of 64 bits with sign read as
floats. -/
def scalarText? : Toml → Option String
  | string s => some s
  | bool b => some (if b then "true" else "false")
  | float x => some (floatText x)
  | integer n =>
    if Text.fitsInt64 n then some (String.ofList (Text.signedDecimal n))
    else if 0 ≤ n ∧ n < 0x10000000000000000 then
      (Binary64.ofRatio? false n.toNat 1).map fun x => floatText (.finite x)
    else none
  | _ => none

/-- The value of a key that may be missing. -/
def field? {α : Type} (es : List (String × Toml)) (key : String) (read : Toml → Option α)
    (default : α) : Option α :=
  match valueAt? key es with
  | none => some default
  | some v => read v

/-- The value of a key, if there is one. -/
def optional? {α : Type} (es : List (String × Toml)) (key : String) (read : Toml → Option α) :
    Option (Option α) :=
  match valueAt? key es with
  | none => some none
  | some v => (read v).map some

/-- The value of a key that has to be there. -/
def required? {α : Type} (es : List (String × Toml)) (key : String) (read : Toml → Option α) :
    Option α :=
  (valueAt? key es).bind read

/-- A table whose values are all read alike. -/
def dict? {α : Type} (read : Toml → Option α) : Toml → Option (Dict α)
  | table es => (es.mapM fun e => (read e.2).map fun v => (e.1, v)).map Dict.ofList
  | _ => none

/-- An array whose elements are all read alike. -/
def list? {α : Type} (read : Toml → Option α) : Toml → Option (List α)
  | array vs => vs.mapM read
  | _ => none

/-- The entries of a table with known keys; an array gives their values in order,
and what it has beyond them is passed over. -/
def entries? (keys : List String) : Toml → Option (List (String × Toml))
  | table es => some es
  | array vs => some (keys.zip vs)
  | _ => none

end Toml

/-! ## requests -/

namespace RequestTemplate

/-- The table of a saved request. -/
def toToml (t : RequestTemplate) : Toml :=
  .table (
    [("method", .string t.method), ("url", .string t.url)] ++
    (if t.body = "" then [] else [("body", .string t.body)]) ++
    (if t.headers = [] then [] else [("headers", .array (t.headers.map .string))]) ++
    [("no_auth", .bool t.noAuth), ("no_headers", .bool t.noHeaders)] ++
    Toml.optional "extract_cookie" (t.extractCookie.map .string) ++
    Toml.texts "extract_to_config" t.extractToConfig)

/-- The keys of a saved request. -/
def keys : List String :=
  ["method", "url", "body", "headers", "no_auth", "no_headers", "extract_cookie", "extract_to_config"]

/-- The saved request of a table. -/
def ofToml? (v : Toml) : Option RequestTemplate := do
  let es ← v.entries? keys
  let method ← Toml.field? es "method" Toml.text? "GET"
  let url ← Toml.required? es "url" Toml.text?
  let body ← Toml.field? es "body" Toml.text? ""
  let headers ← Toml.field? es "headers" (Toml.list? Toml.text?) []
  let noAuth ← Toml.field? es "no_auth" Toml.bool? false
  let noHeaders ← Toml.field? es "no_headers" Toml.bool? false
  let extractCookie ← Toml.optional? es "extract_cookie" Toml.text?
  let extractToConfig ← Toml.field? es "extract_to_config" (Toml.dict? Toml.text?) {}
  pure { method, url, body, headers, noAuth, noHeaders, extractCookie, extractToConfig }

end RequestTemplate

/-! ## authentication -/

namespace Auth

/-- The entries of an authentication. -/
def entries (a : Auth) : List (String × Toml) :=
  Toml.optional "username" (a.username.map .string) ++
  Toml.optional "password" (a.password.map .string) ++
  Toml.optional "cookie" (a.cookie.map .string)

/-- The authentication of a table. -/
def ofToml? (v : Toml) : Option Auth := do
  let es ← v.entries? ["username", "password", "cookie"]
  let username ← Toml.optional? es "username" Toml.text?
  let password ← Toml.optional? es "password" Toml.text?
  let cookie ← Toml.optional? es "cookie" Toml.text?
  pure { username, password, cookie }

end Auth

/-! ## steps -/

namespace RawAssertion

/-- The table of an assertion. -/
def toToml (a : RawAssertion) : Toml :=
  .table [("left", .string a.left), ("op", .string a.operator), ("right", .string a.right)]

/-- The assertion of a table. -/
def ofToml? (v : Toml) : Option RawAssertion := do
  let es ← v.entries? ["left", "op", "right"]
  let left ← Toml.required? es "left" Toml.scalarText?
  let operator ← Toml.required? es "op" Toml.text?
  let right ← Toml.required? es "right" Toml.scalarText?
  pure { left, operator, right }

end RawAssertion

namespace RawAction

/-- The entries of what a step does itself. -/
def entries (a : RawAction) : List (String × Toml) :=
  [("request", .string a.request)] ++
  Toml.texts "extract" a.extract ++
  (if a.assertions = [] then [] else [("assert", .array (a.assertions.map RawAssertion.toToml))]) ++
  Toml.texts "variables" a.locals

/-- The keys of what a step does itself. -/
def keys : List String := ["request", "extract", "assert", "variables"]

/-- What a step with these entries does itself. -/
def ofEntries? (es : List (String × Toml)) : Option RawAction := do
  let request ← Toml.field? es "request" Toml.text? ""
  let extract ← Toml.field? es "extract" (Toml.dict? Toml.text?) {}
  let assertions ← Toml.field? es "assert" (Toml.list? RawAssertion.ofToml?) []
  let locals ← Toml.field? es "variables" (Toml.dict? Toml.scalarText?) {}
  pure { request, extract, assertions, locals }

end RawAction

namespace RawStep

mutual

/-- The table of a step. -/
def toToml : RawStep → Toml
  | mk a branches =>
    .table (a.entries ++
      match branches with
      | [] => []
      | b :: bs => [("on_status", .table (branchEntries (b :: bs)))])

/-- The steps below each status. -/
def branchEntries : List (String × List RawStep) → List (String × Toml)
  | [] => []
  | (status, steps) :: bs => (status, .array (listToToml steps)) :: branchEntries bs

/-- The tables of steps. -/
def listToToml : List RawStep → List Toml
  | [] => []
  | s :: ss => toToml s :: listToToml ss

end

mutual

/-- The step of a table; in an array, the branches come last. -/
def ofToml? : Toml → Option RawStep
  | .table es => do
    let action ← RawAction.ofEntries? es
    let branches ← onStatus? es
    pure (mk action branches)
  | .array (request :: extract :: assertions :: locals :: branches :: _) => do
    let action ← RawAction.ofEntries? (RawAction.keys.zip [request, extract, assertions, locals])
    let branches ← branches? branches
    pure (mk action branches)
  | .array vs => do
    let action ← RawAction.ofEntries? (RawAction.keys.zip vs)
    pure (mk action [])
  | _ => none

/-- The steps below the statuses that the entries of a step have. -/
def onStatus? : List (String × Toml) → Option (List (String × List RawStep))
  | [] => some []
  | (k, v) :: es => if k = "on_status" then branches? v else onStatus? es

/-- The steps below the statuses of a table. -/
def branches? : Toml → Option (List (String × List RawStep))
  | .table es => branchList? es
  | _ => none

/-- The steps below each of some statuses. -/
def branchList? : List (String × Toml) → Option (List (String × List RawStep))
  | [] => some []
  | (status, v) :: es => do
    let steps ← list? v
    let rest ← branchList? es
    pure (Assoc.insert status steps rest)

/-- The steps of an array. -/
def list? : Toml → Option (List RawStep)
  | .array vs => elements? vs
  | _ => none

/-- The steps of the elements of an array. -/
def elements? : List Toml → Option (List RawStep)
  | [] => some []
  | v :: vs => do
    let step ← ofToml? v
    let steps ← elements? vs
    pure (step :: steps)

end

end RawStep

/-! ## the whole -/

namespace Config

/-- The document of a config. -/
def document (c : Config) : List (String × Toml) :=
  Toml.optional "base_url" (c.baseUrl.map .string) ++
  Toml.optional "timeout_secs" (c.timeout.map fun n => .integer n.toNat) ++
  Toml.texts "headers" c.headers ++
  (if c.auth.isEmpty then [] else [("auth", .table c.auth.entries)]) ++
  (if c.requests.isEmpty then []
    else [("requests", .table (c.requests.toList.map fun e => (e.1, e.2.toToml)))]) ++
  (if c.chains.isEmpty then []
    else [("chains", .table (c.chains.toList.map fun e => (e.1, .array (RawStep.listToToml e.2))))])

/-- A number of seconds. -/
def seconds? : Toml → Option UInt64
  | .integer n => if 0 ≤ n ∧ n < 0x10000000000000000 then some (UInt64.ofNat n.toNat) else none
  | _ => none

/-- The config of a document. -/
def ofDocument? (es : List (String × Toml)) : Option Config := do
  let baseUrl ← Toml.optional? es "base_url" Toml.text?
  let timeout ← Toml.optional? es "timeout_secs" seconds?
  let headers ← Toml.field? es "headers" (Toml.dict? Toml.text?) {}
  let auth ← Toml.field? es "auth" Auth.ofToml? ⟨none, none, none⟩
  let requests ← Toml.field? es "requests" (Toml.dict? RequestTemplate.ofToml?) {}
  let chains ← Toml.field? es "chains" (Toml.dict? RawStep.list?) {}
  pure { baseUrl, timeout, headers, auth, requests, chains }

end Config

end HttpChain
