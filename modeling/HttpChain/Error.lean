import HttpChain.Url.Basic

/-!
# HttpChain.Error

Everything that can go wrong, by its cause, and the wording of each cause in
one function, `Error.message`.  An error that another one led to is kept as its
`cause`; `Error.isConfig` tells the errors that a change of the config file
mends.
-/

namespace HttpChain

/-- Why a file operation failed. -/
inductive FileFault where
  | notFound
  | isDirectory
  | notDirectory
  | alreadyThere
  | nameTooLong
  | nulInName
  | notText
  | described (text : String)
deriving DecidableEq, Inhabited

/-- The text of a file fault. -/
def FileFault.message : FileFault → String
  | notFound => "No such file or directory (os error 2)"
  | isDirectory => "Is a directory (os error 21)"
  | notDirectory => "Not a directory (os error 20)"
  | alreadyThere => "File exists (os error 17)"
  | nameTooLong => "File name too long (os error 36)"
  | nulInName => "file name contained an unexpected NUL byte"
  | notText => "stream did not contain valid UTF-8"
  | described text => text

/-- What is wrong with a config. -/
inductive ConfigFault where
  | method (text : String)
  | url (text : String) (fault : Url.Fault)
  | key (name : String)
  | unreadable (path : String) (fault : FileFault)
  | malformed (path : String)
  | described (text : String)
deriving DecidableEq, Inhabited

/-- The text of a config fault. -/
def ConfigFault.message : ConfigFault → String
  | method text => "Invalid HTTP method: " ++ text
  | url text fault => "invalid URL '" ++ text ++ "': " ++ fault.message
  | key name => "unsupported config key '" ++ name ++ "'"
  | unreadable path fault => "Failed to read config file " ++ path ++ ": " ++ fault.message
  | malformed path => "Failed to parse config file " ++ path
  | described text => text

/-- Where an exchange over HTTP failed: while the request was put together
(with its URL, if that was at fault), sent, or its reply read. -/
inductive HttpFault where
  | building (url : Option String)
  | sending (url : String)
  | decoding (url : String)
deriving DecidableEq, Inhabited

/-- The text of an HTTP fault. -/
def HttpFault.message : HttpFault → String
  | building none => "builder error"
  | building (some url) => "builder error for url (" ++ url ++ ")"
  | sending url => "error sending request for url (" ++ url ++ ")"
  | decoding url => "error decoding response body for url (" ++ url ++ ")"

/-- Why an operation failed. -/
inductive Error where
  | config (fault : ConfigFault)
  | missingRequest (step : Nat)
  | unknownChain (name : String)
  | unknownRequest (name : String)
  | unknownOperator (text : String) (step : Nat)
  | invalidStatus (text : String) (step : Nat)
  | transport (request : String) (cause : Error)
  | assertionFailed (index : Nat) (left operator right : String)
  | chainFailed (chain : String) (cause : Error)
  | cancelled
  | parse (text : String)
  | http (fault : HttpFault)
  | file (fault : FileFault)
  | json (text : String)
  | url (fault : Url.Fault)
  | prompt (text : String)
  | other (text : String)
deriving DecidableEq, Inhabited

namespace Error

/-- The text of an error. -/
def message : Error → String
  | config fault => "config error: " ++ fault.message
  | missingRequest step => "step " ++ toString step ++ " missing 'request' field"
  | unknownChain name => "chain '" ++ name ++ "' not found in config"
  | unknownRequest name => "request '" ++ name ++ "' not found in config"
  | unknownOperator text step =>
    "unknown assertion operator '" ++ text ++ "' in step " ++ toString step
  | invalidStatus text step => "invalid status code '" ++ text ++ "' in step " ++ toString step
  | transport request cause => "step '" ++ request ++ "' failed: " ++ cause.message
  | assertionFailed index left operator right =>
    "assertion " ++ toString index ++ " failed: '" ++ left ++ "' " ++ operator ++ " '" ++ right ++ "'"
  | chainFailed chain cause => "chain '" ++ chain ++ "' failed: " ++ cause.message
  | cancelled => "cancelled"
  | parse text => "parse error: " ++ text
  | http fault => "HTTP request failed: " ++ fault.message
  | file fault => "I/O error: " ++ fault.message
  | json text => "JSON error: " ++ text
  | url fault => "invalid URL: " ++ fault.message
  | prompt text => "prompt failed: " ++ text
  | other text => text

/-- The error of a status code that is out of range. -/
def statusOutOfRange (code : Nat) : Error :=
  parse ("Invalid HTTP status code: " ++ toString code)

/-- Whether a change of the config file can mend an error. -/
def isConfig : Error → Bool
  | config _ => true
  | missingRequest _ => true
  | unknownChain _ => true
  | unknownRequest _ => true
  | unknownOperator _ _ => true
  | invalidStatus _ _ => true
  | _ => false

end Error

end HttpChain
