import HttpChain.Config.Basic
import HttpChain.Http.Method
import HttpChain.Text.Blank

/-!
# HttpChain.CommandLine

The command line.  Words are read from the left, first on the level of the
program and, behind the name of a command, on the level of that command.  An
option keeps its value open until the next word that is no value, and what is
wrong with it comes to light only then.
-/

namespace HttpChain.CommandLine

/-- Why a command line is refused. -/
inductive Refusal where
  | unknownArgument
  | invalidCommand
  | missingCommand
  | missingArgument
  | missingValue
  | invalidValue
  | repeated
  | superfluousValue
  | helpWanted
  | versionWanted
  | helpNeeded
deriving DecidableEq

/-- An option. -/
inductive Opt where
  | config
  | bundle
  | verbose
  | help
  | version
  | body
  | header
  | noAuth
  | noHeaders
  | save
  | extractCookie
  | extractToConfig
deriving DecidableEq

/-- Where options stand: before a command, or behind one of a kind. -/
inductive Level where
  | program
  | request
  | other
deriving DecidableEq

namespace Opt

/-- Every option. -/
def all : List Opt :=
  [config, bundle, verbose, help, version, body, header, noAuth, noHeaders, save, extractCookie,
    extractToConfig]

/-- The long name of an option. -/
def long : Opt → String
  | config => "config"
  | bundle => "bundle"
  | verbose => "verbose"
  | help => "help"
  | version => "version"
  | body => "body"
  | header => "header"
  | noAuth => "no-auth"
  | noHeaders => "no-headers"
  | save => "save"
  | extractCookie => "extract-cookie"
  | extractToConfig => "extract-to-config"

/-- The short name of an option, if it has one. -/
def short? : Opt → Option Char
  | verbose => some 'v'
  | help => some 'h'
  | version => some 'V'
  | body => some 'b'
  | header => some 'H'
  | _ => none

/-- Whether an option takes a value. -/
def takesValue : Opt → Bool
  | verbose => false
  | help => false
  | version => false
  | noAuth => false
  | noHeaders => false
  | _ => true

/-- Whether an option may be given several times. -/
def isRepeatable : Opt → Bool
  | header => true
  | extractToConfig => true
  | _ => false

/-- Whether an option is known on a level. -/
def isKnown (level : Level) : Opt → Bool
  | config => true
  | bundle => true
  | verbose => true
  | help => true
  | version => level == .program
  | _ => level == .request

/-- The option of a long name on a level. -/
def ofLong? (level : Level) (name : List Char) : Option Opt :=
  all.find? fun o => o.isKnown level && o.long.toList == name

/-- The option of a short name on a level. -/
def ofShort? (level : Level) (name : Char) : Option Opt :=
  all.find? fun o => o.isKnown level && o.short? == some name

end Opt

/-- A key and a path with an equals sign between them, without blanks around. -/
def keyValue? (text : String) : Option (String × String) := do
  let (key, value) ← Text.splitOnce '=' text.toList
  let key := Text.trim key
  if key = [] then none else some (String.ofList key, String.ofList (Text.trim value))

/-- The text of a refused pair of a key and a path. -/
def keyValueMessage (text : String) : String := "expected key=jsonpath, got '" ++ text ++ "'"

/-! ## reading words -/

/-- What is open: an option whose value may be missing, or an argument. -/
inductive Pending where
  | none
  | option (o : Opt) (value : Option String)
  | argument (value : String)
deriving DecidableEq

/-- What has been read on a level: the options given, each with its value if it
takes one, and the argument; what is still open; and whether options have been
ended. -/
structure State where
  given : List (Opt × String)
  argument : Option String
  pending : Pending
  ended : Bool

namespace State

/-- Nothing read. -/
def start : State := ⟨[], none, .none, false⟩

/-- The values of an option, in order. -/
def values (s : State) (o : Opt) : List String :=
  (s.given.filter fun g => g.1 = o).map Prod.snd

/-- Whether an option was given. -/
def has (s : State) (o : Opt) : Bool := s.given.any fun g => g.1 = o

/-- Whether a value is one that its option takes. -/
def checkValue (o : Opt) (value : String) : Except Refusal Unit :=
  match o with
  | .config => if value = "" then throw .missingValue else pure ()
  | .extractToConfig => if (keyValue? value).isSome then pure () else throw .invalidValue
  | _ => pure ()

/-- Take an option. -/
def take (s : State) (o : Opt) (value : String) : Except Refusal State :=
  if o = .help then throw .helpWanted
  else if o = .version then throw .versionWanted
  else if !o.isRepeatable && s.has o then throw .repeated
  else do
    checkValue o value
    pure { s with given := s.given ++ [(o, value)] }

/-- Settle what is open. -/
def settle (s : State) : Except Refusal State :=
  let closed := { s with pending := .none }
  match s.pending with
  | .none => pure closed
  | .argument value => pure { closed with argument := some value }
  | .option _ none => throw .missingValue
  | .option o (some value) => closed.take o value

/-- Take an option with the value that stands in the same word, or leave it
open. -/
def option (s : State) (o : Opt) (attached : Option String) : Except Refusal State := do
  let s ← s.settle
  match attached with
  | some value => s.take o value
  | none => pure { s with pending := .option o none }

/-- Take an option that has no value. -/
def flag (s : State) (o : Opt) : Except Refusal State := do
  let s ← s.settle
  s.take o ""

/-- Whether an option still waits for its value. -/
def isWaiting (s : State) : Bool :=
  match s.pending with
  | .option _ none => true
  | _ => false

/-- Give an option the value it waits for. -/
def supply (s : State) (value : String) : State :=
  match s.pending with
  | .option o none => { s with pending := .option o (some value) }
  | _ => s

/-- Short options in one word; a value takes the rest of it. -/
def shorts (level : Level) (s : State) : List Char → Except Refusal State
  | [] => pure s
  | c :: cs =>
    match Opt.ofShort? level c with
    | none => throw .unknownArgument
    | some o =>
      if o.takesValue then
        match cs with
        | [] => s.option o none
        | '=' :: value => s.option o (some (String.ofList value))
        | value => s.option o (some (String.ofList value))
      else do
        let s ← s.flag o
        shorts level s cs

/-- A long option, with the value behind its equals sign. -/
def long (level : Level) (s : State) (cs : List Char) : Except Refusal State :=
  let (name, value) := match Text.splitOnce '=' cs with
    | some (n, v) => (n, some (String.ofList v))
    | none => (cs, none)
  match Opt.ofLong? level name with
  | none => throw .unknownArgument
  | some o =>
    if o.takesValue then s.option o value
    else if value.isSome then throw .superfluousValue
    else s.flag o

/-- An argument of a command; there is room for one if `room`. -/
def plain (room : Bool) (s : State) (word : String) : Except Refusal State :=
  let taken := s.argument.isSome || (match s.pending with
    | .argument _ => true
    | _ => false)
  if !room || taken then throw .unknownArgument
  else do
    let s ← s.settle
    pure { s with pending := .argument word }

/-- What a word is while options are read. -/
inductive Word where
  | escape
  | long (cs : List Char)
  | shorts (cs : List Char)
  | plain

/-- The kind of a word. -/
def wordKind (word : String) : Word :=
  match word.toList with
  | ['-', '-'] => .escape
  | '-' :: '-' :: cs => .long cs
  | '-' :: c :: cs => .shorts (c :: cs)
  | _ => .plain

/-- Read the words behind a command. -/
def words (level : Level) (room : Bool) : State → List String → Except Refusal State
  | s, [] => pure s
  | s, w :: ws => do
    let s ←
      if s.ended then s.plain room w
      else match wordKind w with
        | .escape => pure { s with ended := true }
        | .long cs => s.long level cs
        | .shorts cs => s.shorts level cs
        | .plain => if s.isWaiting then pure (s.supply w) else s.plain room w
    words level room s ws

end State

/-! ## commands -/

/-- What is to be done. -/
inductive Command where
  | init
  | run (name : String)
  | request (template : RequestTemplate) (save : Option String)
deriving DecidableEq

/-- A command line that was accepted. -/
structure Invocation where
  config : Option String
  bundle : Option String
  verbose : Bool
  command : Command
deriving DecidableEq

/-- The names of commands. -/
inductive CommandName where
  | request (m : Method)
  | run
  | init
  | help
deriving DecidableEq

/-- The command of a name. -/
def CommandName.ofWord? (word : String) : Option CommandName :=
  match word with
  | "run" => some run
  | "init" => some init
  | "help" => some help
  | _ => (Method.all.find? fun m => m.name.toList.map Char.toLower = word.toList).map request

/-- The level behind a command. -/
def CommandName.level : CommandName → Level
  | request _ => .request
  | _ => .other

/-- The template of a request on the command line. -/
def template (m : Method) (url : String) (s : State) : RequestTemplate :=
  { method := m.name
    url
    body := (s.values .body).headD ""
    headers := s.values .header
    noAuth := s.has .noAuth
    noHeaders := s.has .noHeaders
    extractCookie := (s.values .extractCookie).head?
    extractToConfig := Dict.ofList ((s.values .extractToConfig).filterMap keyValue?) }

/-- The command of what was read behind its name. -/
def CommandName.command (n : CommandName) (s : State) : Except Refusal Command :=
  match n, s.argument with
  | .init, _ => pure .init
  | .help, _ => throw .helpWanted
  | _, none => throw .missingArgument
  | .run, some name => pure (.run name)
  | .request m, some url => pure (.request (template m url s) (s.values .save).head?)

/-- The words behind `help`: a command to be helped with, and nothing more. -/
def helpFor : List String → Refusal
  | [] => .helpWanted
  | [w] => if (CommandName.ofWord? w).isSome then .helpWanted else .invalidCommand
  | _ => .invalidCommand

/-- The value of an option that may be given on both levels; the inner one
counts. -/
def shared (outer inner : State) (o : Opt) : Option String :=
  ((inner.values o).head?).orElse fun _ => (outer.values o).head?

/-- Read the words behind a command whose name has been read. -/
def behind (outer : State) (n : CommandName) (ws : List String) : Except Refusal Invocation :=
  if n = .help then throw (helpFor ws)
  else do
    let inner ← State.words n.level (n ≠ .init) .start ws
    let inner ← inner.settle
    let command ← n.command inner
    let outer ← outer.settle
    pure { config := shared outer inner .config
           bundle := shared outer inner .bundle
           verbose := outer.has .verbose || inner.has .verbose
           command }

/-- Read a command line from the level of the program on. -/
def parseFrom : State → List String → Except Refusal Invocation
  | s, [] => do
    let s ← s.settle
    throw (if s.given = [] then .helpNeeded else .missingCommand)
  | s, w :: ws =>
    if s.ended then
      throw (if (CommandName.ofWord? w).isSome then .unknownArgument else .invalidCommand)
    else if s.isWaiting ∧ !w.startsWith "-" then parseFrom (s.supply w) ws
    else match State.wordKind w with
      | .escape => parseFrom { s with ended := true } ws
      | .long cs => do
        let s ← s.long .program cs
        parseFrom s ws
      | .shorts cs => do
        let s ← s.shorts .program cs
        parseFrom s ws
      | .plain =>
        if s.isWaiting then parseFrom (s.supply w) ws
        else match CommandName.ofWord? w with
          | some n => behind s n ws
          | none => throw .invalidCommand

/-- Read a command line. -/
def parse (args : List String) : Except Refusal Invocation := parseFrom .start args

end HttpChain.CommandLine
