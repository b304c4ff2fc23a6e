import HttpChain.Config.Basic
import HttpChain.Http.Response
import HttpChain.Variable.Capture

/-!
# HttpChain.WriteBack

Writing values of a response back into the config: those that a request
extracts under the keys of settings, and a cookie.  What cannot be extracted or
written is reported and passed over.
-/

namespace HttpChain

/-- A config to which values are written back: whether any has been, and what
there is to say. -/
structure WriteBack where
  config : Config
  updated : Bool
  log : List Log.Event

namespace WriteBack

/-- Nothing written back yet. -/
def start (c : Config) : WriteBack := ⟨c, false, []⟩

/-- Say something. -/
def say (w : WriteBack) (level : Log.Level) (text : String) : WriteBack :=
  { w with log := w.log ++ [⟨level, .writingBack, text⟩] }

/-- Write the value of a path under a key. -/
def setting (document : Json) (w : WriteBack) (key path : String) : WriteBack :=
  match (Capture.mk key path).value document with
  | .error f => { w with log := w.log ++ [Capture.missed .writingBack key path f] }
  | .ok v =>
    match w.config.setValue key v.text with
    | .ok c => { w with config := c, updated := true }.say .info
        ("Extracted '" ++ v.text ++ "' to config key '" ++ key ++ "'")
    | .error e => w.say .warn e.message

/-- Write the values of a response body. -/
def settings (t : RequestTemplate) (body : String) (w : WriteBack) : WriteBack :=
  if t.extractToConfig.isEmpty then w
  else match Json.read? body with
    | some document => t.extractToConfig.toList.foldl (fun w e => w.setting document e.1 e.2) w
    | none => w.say .warn "failed to parse response as JSON for extraction"

/-- Write the cookie of a response. -/
def cookie (t : RequestTemplate) (response : Response) (w : WriteBack) : WriteBack :=
  match t.extractCookie.filter (· ≠ "") with
  | none => w
  | some name =>
    match response.cookie? name with
    | some pair => { w with config := w.config.set pair .cookie, updated := true }.say .info
        ("Extracted cookie '" ++ name ++ "' and saved to auth configuration")
    | none => w.say .warn ("cookie '" ++ name ++ "' not found in response")

end WriteBack

/-- Write back what a request extracts of its response. -/
def Config.writeBack (c : Config) (t : RequestTemplate) (response : Response) : WriteBack :=
  (WriteBack.settings t response.body (.start c)).cookie t response

end HttpChain
