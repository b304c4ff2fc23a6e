/-!
# HttpChain.Http.Status

Status codes from 100 to 599, their reason phrases and their families.
-/

namespace HttpChain

/-- A status code. -/
structure Status where
  code : Nat
  inRange : 100 ≤ code ∧ code < 600
deriving DecidableEq

instance : Inhabited Status := ⟨⟨200, by decide⟩⟩

namespace Status

/-- The status of a code. -/
def ofCode? (code : Nat) : Option Status :=
  if h : 100 ≤ code ∧ code < 600 then some ⟨code, h⟩ else none

/-- The reason phrase of the common codes. -/
def reason (s : Status) : String :=
  match s.code with
  | 200 => "OK"
  | 201 => "Created"
  | 204 => "No Content"
  | 301 => "Moved Permanently"
  | 302 => "Found"
  | 304 => "Not Modified"
  | 400 => "Bad Request"
  | 401 => "Unauthorized"
  | 403 => "Forbidden"
  | 404 => "Not Found"
  | 405 => "Method Not Allowed"
  | 409 => "Conflict"
  | 422 => "Unprocessable Entity"
  | 429 => "Too Many Requests"
  | 500 => "Internal Server Error"
  | 502 => "Bad Gateway"
  | 503 => "Service Unavailable"
  | _ => "Unknown"

/-- The code and its reason phrase. -/
def display (s : Status) : String := toString s.code ++ " " ++ s.reason

/-- The hundred that a code belongs to. -/
inductive Family where
  | informational
  | success
  | redirect
  | clientError
  | serverError
deriving DecidableEq

/-- The family of a status. -/
def family (s : Status) : Family :=
  if s.code < 200 then .informational
  else if s.code < 300 then .success
  else if s.code < 400 then .redirect
  else if s.code < 500 then .clientError
  else .serverError

end Status

end HttpChain
