import HttpChain.Chain.Build
import HttpChain.Run.Basic

/-!
# HttpChain.Run.Chain

Running a chain.  Steps run in order, and a branch runs between its step and
the next one, in the same variables.  The first error ends the run, on every
level at once; a step whose assertion failed is shown before that.
-/

namespace HttpChain

/-- The error of an assertion that failed. -/
def Assertion.Verdict.error (v : Assertion.Verdict) : Error :=
  .assertionFailed v.index v.left v.comparison.symbol v.right

namespace Runner

/-- An event of a run. -/
def event (level : Log.Level) (text : String) : Log.Event := ⟨level, .running, text⟩

/-- Send a request under a name, unless the run has been cancelled. -/
def send (r : Runner) (name : String) (request : Request) (s : RunState) :
    Except Error Response × RunState :=
  if s.cancelled then (.error .cancelled, s)
  else
    let d := r.exchange s.sent.length request
    let s := { s with sent := s.sent ++ [request], cancelled := d.cancels }
    let s := s.say (event .debug ("Executing '" ++ name ++ "': " ++ request.display) :: d.log)
    match d.outcome with
    | none => (.error .cancelled, s)
    | some (.error e) => (.error (.transport name e), s)
    | some (.ok response) => (.ok response, s)

/-- The request of a step in the variables of a run, overlaid by its own. -/
def requestOf (r : Runner) (name : String) (a : Action) (s : RunState) :
    Except Error Request × RunState :=
  let (ctx, draws) := s.context.withLocals a.locals s.draws
  let (resolved, draws) := r.config.resolveNamed r.environment name ctx draws
  let s := { s with draws }
  match resolved with
  | .error e => (.error e, s)
  | .ok (request, events) => (.ok request, s.say events)

/-- Take in the response of a step: capture, check, and show the result. -/
def conclude (depth : Nat) (name : String) (a : Action) (hasBranch : Nat → Bool) (request : Request)
    (response : Response) (s : RunState) : Except Error StepResult × RunState :=
  let captured := capture name response.body a.extract s.context
  let (checked, draws) := Assertion.check a.assertions captured.context s.draws
  let failure : Option Error := match checked with
    | .ok _ => none
    | .error v => some v.error
  let code := response.status.code
  let result : StepResult :=
    { depth, request := name, method := request.method, url := request.url, status := code
      duration := response.duration, extracted := captured.names
      assertions := match checked with
        | .ok vs => vs
        | .error _ => []
      failure := failure.map Error.message
      branched := failure.isNone && hasBranch code }
  let s := { s with
    context := captured.context, draws, observed := s.observed ++ [(result, response)] }
  let s := s.say captured.log
  match failure with
  | some e => (.error e, s)
  | none => (.ok result, s)

/-- Run a step itself, without its branches. -/
def perform (r : Runner) (depth index : Nat) (a : Action) (hasBranch : Nat → Bool) (s : RunState) :
    Except Error StepResult × RunState :=
  let name := Text.strip a.request
  if name = "" then (.error (.missingRequest index), s)
  else match r.requestOf name a s with
    | (.error e, s) => (.error e, s)
    | (.ok request, s) =>
      match r.send name request s with
      | (.error e, s) => (.error e, s)
      | (.ok response, s) => conclude depth name a hasBranch request response s

/-- Whether there is a branch of a status. -/
def hasBranch (branches : List (Nat × List Step)) (status : Nat) : Bool :=
  branches.any fun b => b.1 == status

mutual

/-- Run a step and the branch that its status leads to. -/
def runStep (r : Runner) (depth index : Nat) :
    Step → RunState → Except Error (List StepResult) × RunState
  | .mk a branches, s =>
    match r.perform depth index a (hasBranch branches) s with
    | (.error e, s) => (.error e, s)
    | (.ok result, s) =>
      match r.runBranch depth result branches s with
      | (.error e, s) => (.error e, s)
      | (.ok results, s) => (.ok (result :: results), s)

/-- Run the first branch of the status of a result. -/
def runBranch (r : Runner) (depth : Nat) (result : StepResult) :
    List (Nat × List Step) → RunState → Except Error (List StepResult) × RunState
  | [], s => (.ok [], s)
  | (code, steps) :: rest, s =>
    if code = result.status then
      r.runSteps (depth + 1) 1 steps (s.say [event .debug
        ("Status " ++ toString code ++ " matched branch of '" ++ result.request ++ "'")])
    else r.runBranch depth result rest s

/-- Run steps in order, the first of which has the given place. -/
def runSteps (r : Runner) (depth index : Nat) :
    List Step → RunState → Except Error (List StepResult) × RunState
  | [], s => (.ok [], s)
  | step :: steps, s =>
    match r.runStep depth index step s with
    | (.error e, s) => (.error e, s)
    | (.ok results, s) =>
      match r.runSteps depth (index + 1) steps s with
      | (.error e, s) => (.error e, s)
      | (.ok more, s) => (.ok (results ++ more), s)

end

/-- Run a chain. -/
def runChain (r : Runner) (c : Chain) (s : RunState) : Except Error Report × RunState :=
  let s := s.say [event .info ("Running chain '" ++ c.name ++ "'")]
  match r.runSteps 0 1 c.steps s with
  | (.error e, s) => (.error (.chainFailed c.name e), s)
  | (.ok results, s) =>
    let report : Report := ⟨c.name, results⟩
    (.ok report, s.say [event .info
      ("Chain '" ++ c.name ++ "' finished: " ++ toString report.requestCount ++ " requests")])

/-- Run the chain of a name. -/
def runNamed (r : Runner) (name : String) (s : RunState) : Except Error Report × RunState :=
  match r.config.loadChain name with
  | .error e => (.error e, s)
  | .ok c => r.runChain c s

/-- Run a single request, without variables. -/
def runTemplate (r : Runner) (name : String) (t : RequestTemplate) (s : RunState) :
    Except Error (Request × Response) × RunState :=
  let (resolved, draws) := r.config.resolve r.environment t {} s.draws
  let s := { s with draws }
  match resolved with
  | .error e => (.error e, s)
  | .ok (request, events) =>
    match r.send name request (s.say events) with
    | (.error e, s) => (.error e, s)
    | (.ok response, s) => (.ok (request, response), s)

/-- Run a saved request, without variables. -/
def runRequest (r : Runner) (name : String) (s : RunState) :
    Except Error (Request × Response) × RunState :=
  match r.config.request name with
  | .error e => (.error e, s)
  | .ok t => r.runTemplate name t s

end Runner

end HttpChain
