import HttpChain.Chain.Basic
import HttpChain.Http.Response
import HttpChain.Resolve

/-!
# HttpChain.Run.Basic

What a run needs and what it leaves behind.  The outside world is a function
from the requests sent to their deliveries; a run carries its variables, the
values drawn, and records of all that it did.
-/

namespace HttpChain

/-- What happens to a request: a reply, an error or, when the run is cancelled
before either, nothing; and whether the run is cancelled meanwhile. -/
structure Delivery where
  outcome : Option (Except Error Response)
  cancels : Bool
  log : List Log.Event

/-- Where requests go: what becomes of each, by the number of requests before
it. -/
abbrev Exchange := Nat → Request → Delivery

/-- What a step has come to. -/
structure StepResult where
  depth : Nat
  request : String
  method : Method
  url : String
  status : Nat
  duration : Nat
  extracted : List String
  assertions : List Assertion.Verdict
  failure : Option String
  branched : Bool
deriving DecidableEq

/-- Whether a step passed. -/
def StepResult.passed (r : StepResult) : Bool := r.failure.isNone

/-- What a chain has come to. -/
structure Report where
  chain : String
  steps : List StepResult
deriving DecidableEq

namespace Report

/-- The number of requests. -/
def requestCount (r : Report) : Nat := r.steps.length

/-- The number of assertions that passed. -/
def assertionCount (r : Report) : Nat := (r.steps.map fun s => s.assertions.length).foldl (· + ·) 0

/-- The time of all requests, in microseconds. -/
def totalDuration (r : Report) : Nat := (r.steps.map StepResult.duration).foldl (· + ·) 0

/-- How often a request was sent. -/
def executionsOf (r : Report) (request : String) : Nat :=
  (r.steps.filter fun s => s.request = request).length

end Report

/-- A run: its variables, the values drawn, whether it has been cancelled, and
what it has sent, shown and said. -/
structure RunState where
  context : Context
  draws : Draws
  cancelled : Bool
  sent : List Request
  observed : List (StepResult × Response)
  log : List Log.Event

namespace RunState

/-- A run that has not begun. -/
def start (context : Context) (draws : Draws) (cancelled : Bool) : RunState :=
  ⟨context, draws, cancelled, [], [], []⟩

/-- Say something. -/
def say (s : RunState) (events : List Log.Event) : RunState := { s with log := s.log ++ events }

end RunState

/-- What does not change during a run. -/
structure Runner where
  config : Config
  environment : Environment
  exchange : Exchange

end HttpChain
