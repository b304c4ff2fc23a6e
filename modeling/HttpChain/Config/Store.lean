import HttpChain.Config.Document
import HttpChain.Files
import HttpChain.Log
import HttpChain.Toml.Reader
import HttpChain.Toml.Writer

/-!
# HttpChain.Config.Store

Where configs are kept.  A config is read from the path that is given, or from
the file of its bundle in the nearest of the working directory and the
directories above it, or else in the user's own directory.  Where there is no
such file, the config is empty and will be saved in the working directory.
-/

namespace HttpChain

namespace Config

/-- The text of a config. -/
def write (c : Config) : String := Toml.write c.document

/-- The config of a text. -/
def read? (text : String) : Option Config := (Toml.read? text).bind ofDocument?

end Config

/-- A config and the path it is saved at. -/
structure ConfigFile where
  config : Config
  path : String

namespace ConfigFile

/-- The file name of a bundle. -/
def fileName : Option String → String
  | none => "chainpost.toml"
  | some bundle => if bundle = "" then "chainpost.toml" else bundle ++ ".toml"

/-- The config in the file at a path. -/
def readAt (t : FileTree) (path : String) : Except Error Config :=
  match t.readText path with
  | .error f => throw (.config (.unreadable path f))
  | .ok text =>
    match Config.read? text with
    | some c => pure c
    | none => throw (.config (.malformed path))

/-- The event of saving at a path. -/
def savedEvent (path : String) : Log.Event := ⟨.debug, .configFile, "Config saved to " ++ path⟩

/-- Write a config into the file at a path, whose directories are made. -/
def writeAt (t : FileTree) (c : Config) (path : String) : Except Error FileTree :=
  let parent := (Path.parent? path).filter (· ≠ "")
  match (do
    let t ← match parent with
      | some p => t.makeDirectories p
      | none => pure t
    t.write path (Text.bytes c.write)) with
  | .ok t => pure t
  | .error f => throw (.file f)

/-- The paths of a name in a directory and those above it. -/
def pathsUpwards (start name : String) : List String :=
  (Path.upwards start).map fun d => Path.join d name

/-- The path of a name in the user's own directory. -/
def pathAtHome? (t : FileTree) (name : String) : Option String :=
  t.home.map fun home => Path.join (Path.join (Path.join home ".config") "chainpost") name

/-- The file of a name in the nearest directory that has it, going up. -/
def findUpwards (t : FileTree) (start name : String) : Option String :=
  (pathsUpwards start name).find? t.isFile

/-- The file of a name in the user's own directory. -/
def findAtHome (t : FileTree) (name : String) : Option String :=
  (pathAtHome? t name).filter t.isFile

/-- The paths at which a config may be. -/
def candidates (t : FileTree) (explicit bundle : Option String) : List String :=
  match explicit with
  | some path => [path]
  | none => pathsUpwards t.workingPath (fileName bundle) ++ (pathAtHome? t (fileName bundle)).toList

/-- The file of a name. -/
def find (t : FileTree) (name : String) : Option String :=
  (findUpwards t t.workingPath name).orElse fun _ => findAtHome t name

/-- Load the config at a path that is given, or else of a bundle. -/
def load (t : FileTree) (explicit bundle : Option String) :
    Except Error ConfigFile × List Log.Event :=
  match explicit with
  | some path => ((readAt t path).map fun c => ⟨c, path⟩, [])
  | none =>
    let name := fileName bundle
    match find t name with
    | some path =>
      ((readAt t path).map fun c => ⟨c, path⟩, [⟨.debug, .configFile, "Using config file " ++ path⟩])
    | none =>
      (pure ⟨Config.empty, name⟩,
        [⟨.debug, .configFile, "No config file found, starting with an empty config"⟩])

/-- Save a config where it came from. -/
def save (f : ConfigFile) (t : FileTree) : Except Error FileTree := writeAt t f.config f.path

end ConfigFile

end HttpChain
