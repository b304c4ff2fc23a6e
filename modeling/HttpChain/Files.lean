import HttpChain.Error
import HttpChain.Text.Ascii
import HttpChain.Text.Utf8

/-!
# HttpChain.Files

A tree of files and directories, and what reading, writing and looking up
paths in it give.  A path is resolved part by part from the working directory
or, behind a leading slash, from the root; every part but the last has to be a
directory.
-/

namespace HttpChain

/-- A file with its bytes, or a directory. -/
inductive Node where
  | file (content : List UInt8)
  | directory
deriving DecidableEq, Inhabited

/-- A place in the tree: the names on the way from the root. -/
abbrev Place := List String

/-- What stands at each place; the root is always a directory. -/
structure FileTree where
  nodes : List (Place × Node)
  workingDirectory : Place
  home : Option String
deriving DecidableEq, Inhabited

/-! ## paths -/

namespace Path

/-- The parts of a path. -/
def parts (path : List Char) : List (List Char) := Text.splitAll '/' path

/-- A path below another one; an absolute path stands alone. -/
def join (base path : String) : String :=
  if path.toList.head? = some '/' ∨ base = "" then path
  else if base.toList.getLast? = some '/' then base ++ path
  else base ++ "/" ++ path

/-- Cut slashes and single points between slashes from the end. -/
def trimBack : List (List Char) → List (List Char)
  | ps => (ps.reverse.dropWhile fun p => p = [] || p = ['.']).reverse

/-- The path without its last name. -/
def parent? (path : String) : Option String :=
  let cs := path.toList
  let render (ps : List (List Char)) : List Char := ['/'].intercalate ps
  match cs with
  | '/' :: body =>
    match trimBack (parts body) with
    | [] => none
    | ps => some (String.ofList ('/' :: render (trimBack ps.dropLast)))
  | _ =>
    -- a leading point is a name, unlike the ones behind it
    match parts cs with
    | ['.'] :: rest =>
      match trimBack rest with
      | [] => some ""
      | ps => some (String.ofList (render (['.'] :: trimBack ps.dropLast)))
    | ps =>
      match trimBack ps with
      | [] => none
      | ps => some (String.ofList (render (trimBack ps.dropLast)))

/-- The path and those above it, from the innermost. -/
def ancestors : Nat → String → List String
  | 0, path => [path]
  | fuel + 1, path =>
    match parent? path with
    | none => [path]
    | some above => path :: ancestors fuel above

/-- The path and all those above it. -/
def upwards (path : String) : List String := ancestors (path.length + 1) path

/-- The places on the way along a path from a place, whatever stands there. -/
def places (start : Place) (path : String) : List Place :=
  let start := if path.toList.head? = some '/' then [] else start
  ((parts path.toList).foldl (fun way part =>
    let here := way.headD start
    let next :=
      if part = [] ∨ part = ['.'] then here
      else if part = ['.', '.'] then here.dropLast
      else here ++ [String.ofList part]
    next :: way) [start]).reverse

end Path

namespace FileTree

/-- The node at a place. -/
def node? (t : FileTree) (p : Place) : Option Node :=
  if p = [] then some .directory else (t.nodes.find? fun n => n.1 = p).map Prod.snd

/-- Put a node at a place. -/
def set (t : FileTree) (p : Place) (n : Node) : FileTree :=
  { t with nodes := (p, n) :: t.nodes.filter fun m => m.1 ≠ p }

/-- Go one part on from a place, which has to be a directory. -/
def step (t : FileTree) (p : Place) (part : List Char) : Except FileFault Place :=
  match t.node? p with
  | none => throw .notFound
  | some (.file _) => throw .notDirectory
  | some .directory =>
    if part = [] ∨ part = ['.'] then pure p
    else if part = ['.', '.'] then pure p.dropLast
    else if 255 < (Text.utf8 part).length then throw .nameTooLong
    else pure (p ++ [String.ofList part])

/-- The place that a path leads to; there may be nothing there. -/
def place? (t : FileTree) (path : String) : Except FileFault Place :=
  if path.toList.contains '\x00' then throw .nulInName
  else match path.toList with
    | [] => throw .notFound
    | '/' :: cs => (Path.parts cs).foldlM t.step []
    | cs => (Path.parts cs).foldlM t.step t.workingDirectory

/-- The bytes of the file at a path. -/
def read (t : FileTree) (path : String) : Except FileFault (List UInt8) := do
  let p ← t.place? path
  match t.node? p with
  | some (.file content) => pure content
  | some .directory => throw .isDirectory
  | none => throw .notFound

/-- The text of the file at a path. -/
def readText (t : FileTree) (path : String) : Except FileFault String := do
  let content ← t.read path
  match Text.decode? content with
  | some s => pure s
  | none => throw .notText

/-- Whether there is a file at a path. -/
def isFile (t : FileTree) (path : String) : Bool :=
  match t.read path with
  | .ok _ => true
  | .error _ => false

/-- Whether there is a directory at a path. -/
def isDirectory (t : FileTree) (path : String) : Bool :=
  match t.place? path with
  | .ok p => t.node? p = some .directory
  | .error _ => false

/-- Write the file at a path; its directory has to be there. -/
def write (t : FileTree) (path : String) (content : List UInt8) : Except FileFault FileTree :=
  if path.toList.getLast? = some '/' then
    match t.place? path with
    | .error .notDirectory => throw .notDirectory
    | .error .nulInName => throw .nulInName
    | _ => throw .isDirectory
  else do
    let p ← t.place? path
    if t.node? p = some .directory then throw .isDirectory
    else pure (t.set p (.file content))

/-- Make the last directory of a path. -/
def makeDirectory (t : FileTree) (path : String) : Except FileFault FileTree := do
  let p ← t.place? (String.ofList ((path.toList.reverse.dropWhile (· == '/')).reverse))
  if (t.node? p).isSome then throw .alreadyThere
  else pure (t.set p .directory)

/-- Make the directories of paths, each one below the next, from the outermost
that is missing. -/
def makeAll (t : FileTree) : List String → Except FileFault FileTree
  | [] => pure t
  | path :: above =>
    if path = "" then pure t
    else match t.makeDirectory path with
      | .ok t => pure t
      | .error .notFound => do
        let t ← t.makeAll above
        match t.makeDirectory path with
        | .ok t => pure t
        | .error f => if t.isDirectory path then pure t else throw f
      | .error f => if t.isDirectory path then pure t else throw f

/-- Make a directory and those above it, as far as they are missing. -/
def makeDirectories (t : FileTree) (path : String) : Except FileFault FileTree :=
  t.makeAll (Path.upwards path)

/-- The path of the working directory. -/
def workingPath (t : FileTree) : String := "/" ++ "/".intercalate t.workingDirectory

end FileTree

end HttpChain
