import HttpChain.CommandLine
import HttpChain.Config.Store
import HttpChain.Console.Progress
import HttpChain.Http.Transfer
import HttpChain.Run.Chain
import HttpChain.Setup
import HttpChain.WriteBack

/-!
# HttpChain.Program

The program as a function of the machine it runs on.  It leaves behind the
files as they are then, what it printed, and the requests that it sent; a
failure ends it and undoes nothing.
-/

namespace HttpChain

/-- What becomes of a request on the network; as long as that is not known, it
is pending, and the program goes no further. -/
inductive Contact where
  | answered (response : Incoming)
  | unanswered
  | interrupted
  | pending
deriving Inhabited

/-- The machine: its files and environment, the keys that are pressed if it has
a terminal, its network by the number of requests before, where drawn values
come from, and whether colours are shown.  What it knows of the keys and the
network may be a part only: the program then ends at the first thing missing,
and with more of it goes on from there. -/
structure Machine where
  files : FileTree
  environment : Environment
  keys : Option (List Key)
  network : Nat → Outgoing → Contact
  draws : Draws
  colors : Bool

/-- Why the program fails: an error, one of saving under a text of its own, or
a prompt without an answer. -/
inductive Failure where
  | error (e : Error)
  | savingRequest (name : String) (cause : Error)
  | updating (path : String) (cause : Error)
  | writing (path : String) (cause : Error)
  | prompt (f : Prompt.Fault)
deriving DecidableEq, Inhabited

/-- The text of a failure. -/
def Failure.message : Failure → String
  | error e => e.message
  | savingRequest name _ => "failed to save request '" ++ name ++ "'"
  | updating path _ => "failed to update " ++ path
  | writing path _ => "failed to write " ++ path
  | prompt f => f.message

/-- The line that tells of a failure. -/
def Failure.line (colors : Bool) (f : Failure) : String :=
  Console.styled colors (.boldColored .red) "Error:" ++ " " ++ f.message

/-- What the program says beside its output. -/
inductive Note where
  | event (e : Log.Event)
  | line (text : String)
deriving DecidableEq, Inhabited

namespace Note

/-- Whether a note is shown; a filter decides about events. -/
def isShown (f : Log.Filter) : Note → Bool
  | event e => f.shows e
  | line _ => true

/-- The line of a note, where an event stands behind the time. -/
def render (time : String) : Note → String
  | event e => time ++ " " ++ e.line
  | line text => text

end Note

/-- What the program has done so far: the files, what it printed and noted, the
paths of bodies that it wanted to send and the requests that it sent, how many
values it drew, and the seconds that it waits for a response. -/
structure Session where
  files : FileTree
  output : String
  notes : List Note
  attached : List String
  sent : List Outgoing
  drawn : Nat
  patience : Nat

/-- A session that has not begun. -/
def Session.start (files : FileTree) : Session := ⟨files, "", [], [], [], 0, 0⟩

/-- A part of the program: what it has done stays when it fails. -/
abbrev Program := ExceptT Failure (StateM Session)

namespace Program

/-! ## effects -/

/-- Print a text. -/
def print (text : String) : Program Unit :=
  modify fun s => { s with output := s.output ++ text }

/-- Note a line. -/
def noteLine (text : String) : Program Unit :=
  modify fun s => { s with notes := s.notes ++ [.line text] }

/-- Note events. -/
def noteEvents (events : List Log.Event) : Program Unit :=
  modify fun s => { s with notes := s.notes ++ events.map .event }

/-- Go on with a value, or fail. -/
def orFail {α : Type} (failure : Error → Failure) : Except Error α → Program α
  | .ok a => pure a
  | .error e => throw (failure e)

/-- Save a config. -/
def save (failure : Error → Failure) (file : ConfigFile) : Program Unit := do
  let s ← get
  let files ← orFail failure (file.save s.files)
  modify fun s => { s with files }
  noteEvents [ConfigFile.savedEvent file.path]

/-- Load a config. -/
def load (path bundle : Option String) : Program ConfigFile := do
  let s ← get
  let (loaded, events) := ConfigFile.load s.files path bundle
  noteEvents events
  orFail .error loaded

/-! ## sending -/

/-- The event of an interruption. -/
def interruption : Log.Event := ⟨.warn, .program, "Interrupted, cancelling..."⟩

/-- What becomes of the requests of a run: they go out and are answered by the
network. -/
def deliver (m : Machine) (files : FileTree) : Exchange := fun i r =>
  match r.outgoing files with
  | (.error e, said) => ⟨some (.error e), false, said⟩
  | (.ok o, said) =>
    let received (a : Option Incoming) : Delivery :=
      let (result, more) := o.receive a
      ⟨some result, false, said ++ more⟩
    match m.network i o with
    | .answered a => received (some a)
    | .unanswered => received none
    | .interrupted => ⟨none, true, said ++ [interruption]⟩
    | .pending => ⟨none, true, said⟩

/-- The seconds that a config waits for a response. -/
def patience (c : Config) : Nat := (c.timeout.map UInt64.toNat).getD 30

/-- Note the requests of a run and what was drawn for them. -/
def noteRun (c : Config) (r : RunState) : Program Unit :=
  modify fun s => { s with
    attached := s.attached ++ r.sent.filterMap Request.attachment?
    sent := s.sent ++ r.sent.filterMap fun q => (q.outgoing s.files).1.toOption
    drawn := r.draws.taken
    patience := patience c }

/-- Do a run with a config, print its steps, and note what it said. -/
def perform {α : Type} (m : Machine) (o : Console.Settings) (c : Config)
    (run : Runner → RunState → Except Error α × RunState) : Program α := do
  let s ← get
  let runner : Runner := ⟨c, m.environment, deliver m s.files⟩
  let (result, r) := run runner (.start {} m.draws false)
  noteEvents r.log
  noteRun c r
  r.observed.forM fun (step, response) => print (o.step step response ++ "\n")
  orFail .error result

/-! ## commands -/

/-- Run a chain. -/
def runChain (m : Machine) (o : Console.Settings) (file : ConfigFile) (name : String) :
    Program Unit := do
  let chain ← orFail .error (file.config.loadChain name)
  print (o.chainHeader chain.name chain.stepCount)
  let report ← perform m o file.config fun r => r.runChain chain
  print (Console.Settings.summary ⟨o.colors, false⟩ report)

/-- Run a single request and write back what it extracts. -/
def runSingle (m : Machine) (o : Console.Settings) (file : ConfigFile) (name : String)
    (t : RequestTemplate) : Program Unit := do
  let (request, response) ← perform m o file.config fun r => r.runTemplate name t
  print (o.exchange request response)
  let w := file.config.writeBack t response
  noteEvents w.log
  if w.updated then save (.updating file.path) { file with config := w.config }

/-- Run what a name stands for: a chain, or else a saved request. -/
def runNamed (m : Machine) (o : Console.Settings) (file : ConfigFile) (name : String) :
    Program Unit := do
  if file.config.hasChain name then runChain m o file name
  else
    let t ← orFail .error (file.config.request name)
    runSingle m o file name t

/-- Send a request, saved under a name before if one is given. -/
def request (m : Machine) (o : Console.Settings) (file : ConfigFile) (t : RequestTemplate) :
    Option String → Program Unit
  | none => runSingle m o file t.url t
  | some name => do
    let file := { file with config := file.config.saveRequest name t }
    save (.savingRequest name) file
    noteLine ("Request saved as '" ++ name ++ "' to " ++ file.path)
    runSingle m o file t.url t

/-- Set up a config in a dialogue. -/
def setUp (m : Machine) (o : Console.Settings) (path : String) : Program Unit := do
  let s ← get
  let config ←
    if s.files.isFile path then orFail .error (ConfigFile.readAt s.files path) else pure .empty
  print "Initializing new chainpost bundle...\n"
  let keys ← match m.keys with
    | some keys => pure keys
    | none => throw (.prompt .noTerminal)
  let answers : Setup ← match Setup.ask keys with
    | .ok (answers, _) => pure answers
    | .error f => throw (.prompt f)
  save (.writing path) ⟨answers.apply config, path⟩
  print (o.paint (.colored .green) "Bundle initialized!" ++ " Configuration saved to " ++ path ++
    "\n")

/-- Do what a command line asks for. -/
def invoke (m : Machine) (i : CommandLine.Invocation) : Program Unit := do
  let o : Console.Settings := ⟨m.colors, i.verbose⟩
  match i.command with
  | .init => setUp m o (i.config.getD (ConfigFile.fileName i.bundle))
  | .run name => do
    let file ← load i.config i.bundle
    runNamed m o file name
  | .request t name => do
    let file ← load i.config i.bundle
    request m o file t name

/-- What an invocation comes to on a machine. -/
def run (m : Machine) (i : CommandLine.Invocation) : Except Failure Unit × Session :=
  StateT.run (ExceptT.run (invoke m i)) (.start m.files)

/-! ## the whole -/

/-- The filter of the log: that of the environment, or else the usual one. -/
def filter (env : Environment) (verbose : Bool) : Log.Filter :=
  ((env "RUST_LOG").bind Log.Filter.ofText?).getD (.upTo (if verbose then .debug else .info))

/-- Whether styles are shown: they may be forced or forbidden, and are otherwise
for terminals. -/
def showsStyles (env : Environment) (isTerminal : Bool) : Bool :=
  let setting (name : String) : Option Bool := (env name).map (· ≠ "0")
  if setting "CLICOLOR_FORCE" = some true then true
  else if (env "NO_COLOR").isSome then false
  else (setting "CLICOLOR").getD true && isTerminal

/-- The first event of every run. -/
def started : Log.Event := ⟨.debug, .logging, "Logger initialized"⟩

/-- How the program ends. -/
inductive Outcome where
  | refused (r : CommandLine.Refusal)
  | failed (f : Failure)
  | done
deriving DecidableEq

/-- The exit code of a refused command line; to ask for help or for the version
is no mistake. -/
def refusalCode : CommandLine.Refusal → Nat
  | .helpWanted => 0
  | .versionWanted => 0
  | _ => 2

/-- The exit code of an outcome. -/
def Outcome.code : Outcome → Nat
  | refused r => refusalCode r
  | failed _ => 1
  | done => 0

/-- The end of the program: its outcome, the notes that are shown, and what it
has done. -/
structure End where
  outcome : Outcome
  notes : List Note
  session : Session

/-- What a command line comes to on a machine. -/
def onCommandLine (m : Machine) (args : List String) : End :=
  match CommandLine.parse args with
  | .error r => ⟨.refused r, [], .start m.files⟩
  | .ok i =>
    let (result, s) := run m i
    let notes := (.event started :: s.notes).filter (Note.isShown (filter m.environment i.verbose))
    match result with
    | .ok _ => ⟨.done, notes, s⟩
    | .error f => ⟨.failed f, notes, s⟩

/-- The lines about a failure. -/
def Outcome.lines (colors : Bool) : Outcome → List String
  | failed f => [f.line colors]
  | _ => []

/-- The lines beside the output, at a time. -/
def End.lines (e : End) (colors : Bool) (time : String) : List String :=
  e.notes.map (Note.render time) ++ e.outcome.lines colors

end Program

end HttpChain
