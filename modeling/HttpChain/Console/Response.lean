import HttpChain.Console.Style
import HttpChain.Http.Response
import HttpChain.Json.Reader
import HttpChain.Json.Writer

/-!
# HttpChain.Console.Response

How responses are shown: a line with the status, on request the time and the
fields, and the body, which is laid out over several lines if it is JSON.
-/

namespace HttpChain.Console

/-- A JSON body with one element per line; any other body as it is. -/
def prettyBody (body : String) : String :=
  match Json.read? body with
  | some v => v.pretty
  | none => body

/-- How things are shown. -/
structure Settings where
  colors : Bool
  verbose : Bool

namespace Settings

/-- A text in a style. -/
def paint (o : Settings) (s : Style) (text : String) : String := styled o.colors s text

/-- The line of a status. -/
def statusLine (o : Settings) (s : Status) : String :=
  o.paint (.boldColored (.ofStatus s)) ("HTTP " ++ s.display)

/-- The line of a field. -/
def fieldLine (o : Settings) (f : Field) : String :=
  o.paint (.colored .blue) (f.name ++ ": " ++ f.text?.getD "<invalid utf-8>")

/-- A response. -/
def response (o : Settings) (r : Response) : String :=
  let details :=
    if o.verbose then
      o.paint (.colored .cyan) ("Time: " ++ toString r.milliseconds ++ "ms") ::
        (if r.fields = [] then [] else "" :: r.fields.map o.fieldLine)
    else []
  let body := if r.body = "" then [] else ["", prettyBody r.body]
  "\n".intercalate (o.statusLine r.status :: (details ++ body))

end Settings

end HttpChain.Console
