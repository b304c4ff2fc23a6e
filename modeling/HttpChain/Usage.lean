import HttpChain.CommandLine

/-!
# HttpChain.Usage

What a refused command line is answered with: the help, the version, or what is
wrong and a short reminder.
-/

namespace HttpChain.CommandLine

/-- The name and the version of the program. -/
def version : String := "chainpost 0.1.0"

/-- The commands with what they do. -/
def commandLines : List String :=
  Method.all.map (fun m =>
    let name := String.ofList (m.name.toList.map Char.toLower)
    "  " ++ name ++ " <URL>: send a " ++ m.name ++ " request") ++
  ["  run <NAME>: run a saved chain, or a saved request when no chain has that name",
    "  init: create a config file interactively",
    "  help: print this help"]

/-- What an option is for. -/
def Opt.purpose : Opt → String
  | config => "path of the config file"
  | bundle => "use <BUNDLE>.toml as the config file"
  | verbose => "print more"
  | help => "print this help"
  | version => "print the version"
  | body => "body of the request; an at sign and a path stand for a file"
  | header => "header of the request"
  | noAuth => "leave out the credentials of the config"
  | noHeaders => "leave out the headers of the config"
  | save => "save the request under a name"
  | extractCookie => "save a cookie of the response in the config"
  | extractToConfig => "save a value of the response in the config, as key=jsonpath"

/-- The line about an option. -/
def Opt.usage (o : Opt) : String :=
  "  " ++ (o.short?.elim "" fun c => String.ofList ['-', c, ',', ' ']) ++ "--" ++ o.long ++
    (if o.takesValue then " <VALUE>" else "") ++ ": " ++ o.purpose

/-- The lines of the help. -/
def helpLines : List String :=
  ["A CLI HTTP client for saved requests and request chains", "",
    "Usage: chainpost [OPTIONS] <COMMAND>", "", "Commands:"] ++ commandLines ++ ["", "Options:"] ++
    Opt.all.map Opt.usage

/-- What is wrong with a refused command line. -/
def Refusal.reason : Refusal → String
  | unknownArgument => "unexpected argument"
  | invalidCommand => "unrecognized subcommand"
  | missingCommand => "a subcommand is required but none was given"
  | missingArgument => "a required argument was not given"
  | missingValue => "an option needs a value but none was given"
  | invalidValue => "invalid value of an option"
  | repeated => "an option cannot be used several times"
  | superfluousValue => "unexpected value of an option"
  | helpWanted => "help"
  | versionWanted => "version"
  | helpNeeded => "no arguments"

/-- The lines that answer a refused command line. -/
def Refusal.lines : Refusal → List String
  | helpWanted => helpLines
  | helpNeeded => helpLines
  | versionWanted => [version]
  | r => ["error: " ++ r.reason, "", "For more information, try --help."]

end HttpChain.CommandLine
