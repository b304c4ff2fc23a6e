import HttpChain.Json.Reader
import HttpChain.JsonPath.Eval
import HttpChain.JsonPath.Parser
import HttpChain.Log
import HttpChain.Text.Blank
import HttpChain.Variable.Context

/-!
# HttpChain.Variable.Capture

Capturing values of a JSON body into variables.  A path that selects one value
captures it, and one that selects several captures their array; a path that is
no query or selects nothing is passed over, and the others are not affected.
-/

namespace HttpChain

/-- Why a path captures nothing. -/
inductive CaptureFault where
  | invalidPath (path : String)
  | notFound (path : String)
deriving DecidableEq

/-- The text of a capture fault. -/
def CaptureFault.message : CaptureFault → String
  | invalidPath path => "Invalid JSONPath '" ++ path ++ "'"
  | notFound path => "Path not found: " ++ path

/-- A variable and the path of its value. -/
structure Capture where
  name : String
  path : String
deriving DecidableEq

namespace Capture

/-- A path in full: without blanks around it, and starting at the document. -/
def normalize (path : List Char) : List Char :=
  match Text.trim path with
  | '$' :: cs => '$' :: cs
  | '[' :: cs => '$' :: '[' :: cs
  | cs => '$' :: '.' :: cs

/-- The path in full. -/
def normalizedPath (c : Capture) : String := String.ofList (normalize c.path.toList)

/-- The value that a path in full captures of a document. -/
def valueAt (path : String) (document : Json) : Except CaptureFault Json :=
  match JsonPath.parse? path.toList with
  | none => throw (.invalidPath path)
  | some q =>
    match q.select document with
    | [] => throw (.notFound path)
    | [v] => pure v
    | vs => pure (.array vs)

/-- The value that is captured of a document. -/
def value (c : Capture) (document : Json) : Except CaptureFault Json :=
  valueAt c.normalizedPath document

/-- The event of a path that captures nothing. -/
def missed (topic : Log.Topic) (name path : String) (f : CaptureFault) : Log.Event :=
  ⟨.warn, topic,
    "failed to extract '" ++ name ++ "' using path '" ++ path ++ "': " ++ f.message⟩

end Capture

/-- What captures make of a context: the names captured, in order, the context
after them, and what there is to say about them. -/
structure Captured where
  names : List String
  context : Context
  log : List Log.Event

namespace Captured

/-- Nothing captured. -/
def nothing (ctx : Context) : Captured := ⟨[], ctx, []⟩

/-- Capture one more value of a document. -/
def add (document : Json) (s : Captured) (c : Capture) : Captured :=
  match c.value document with
  | .ok v =>
    { names := s.names ++ [c.name]
      context := s.context.insert c.name v
      log := s.log ++ [⟨.debug, .capturing, "extracted '" ++ c.name ++ "' = " ++ v.write⟩] }
  | .error f => { s with log := s.log ++ [Capture.missed .capturing c.name c.path f] }

end Captured

/-- Capture values of a response body; a body that is not JSON yields none. -/
def capture (request body : String) (captures : List Capture) (ctx : Context) : Captured :=
  if captures = [] then .nothing ctx
  else
    match Json.read? body with
    | some document => captures.foldl (Captured.add document) (.nothing ctx)
    | none =>
      { Captured.nothing ctx with
        log := [⟨.warn, .capturing,
          "failed to parse response for extraction in step '" ++ request ++ "'"⟩] }

end HttpChain
