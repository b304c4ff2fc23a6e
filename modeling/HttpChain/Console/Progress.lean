import HttpChain.Console.Response
import HttpChain.Console.Table
import HttpChain.Run.Basic

/-!
# HttpChain.Console.Progress

What a run prints: a line before it, each step as it comes to its end, and a
table of all steps behind them.
-/

namespace HttpChain.Console

/-- The lines of a text; a line end at its end does not begin another one. -/
def textLines (text : String) : List String :=
  let cut (l : List Char) : List Char :=
    if l.getLast? = some '\r' then l.dropLast else l
  let ls := cellLines text.toList
  let ended := if ls.getLast? = some [] then ls.dropLast else ls
  -- only lines that a line end follows lose a carriage return
  (ended.zipIdx.map fun (l, i) => String.ofList (if i + 1 < ls.length then cut l else l))

/-- Blanks for a depth, two for each level. -/
def indent (depth : Nat) : String := String.ofList (List.replicate (2 * depth) ' ')

/-- Microseconds as seconds with three decimals, rounded as the nearest binary64
number. -/
def secondsText (microseconds : Nat) : String :=
  let whole := microseconds / 1000000
  let part :=
    (Binary64.ofRatio? false (microseconds % 1000000 * 1000) 1000000000).getD (.zero false)
  let units := whole * Nat.pow 2 1074 + part.units
  let sum := (Binary64.ofRatio? false units (Nat.pow 2 1074)).getD (.zero false)
  let thousandths := Binary64.divideToEven (sum.units * 1000) (Nat.pow 2 1074)
  let digits := Text.decimal (thousandths % 1000)
  String.ofList (Text.decimal (thousandths / 1000) ++
    '.' :: (List.replicate (3 - digits.length) '0' ++ digits))

namespace Settings

/-- The mark of a step. -/
def mark (o : Settings) (passed : Bool) : String :=
  if passed then o.paint (.colored .green) "✓" else o.paint (.colored .red) "✗"

/-- The lines of a step and its response. -/
def stepLines (o : Settings) (s : StepResult) (r : Response) : List String :=
  let margin := indent s.depth
  let inner := margin ++ "    "
  let first := margin ++ o.mark s.passed ++ " " ++ o.paint .bold s.request ++ " " ++
    o.paint (.colored .cyan) s.method.name ++ " " ++ s.url ++ " " ++
    o.paint (.colored (.ofStatus r.status)) (toString r.status.code) ++
    " (" ++ toString (s.duration / 1000) ++ "ms)"
  let extracted := s.extracted.map fun name => inner ++ o.paint .dimmed "extracted" ++ " " ++ name
  let assertions := s.assertions.map fun a =>
    inner ++ o.mark true ++ " '" ++ a.left ++ "' " ++ a.comparison.symbol ++ " '" ++ a.right ++ "'"
  let failure := match s.failure with
    | some f => [inner ++ o.mark false ++ " " ++ o.paint (.colored .red) f]
    | none => []
  let body :=
    if o.verbose || !s.passed then (textLines (o.response r)).map fun l => inner ++ l else []
  let branch :=
    if s.branched then
      [margin ++ "  " ++ o.paint .dimmed "↳" ++ " on_status " ++ toString s.status]
    else []
  first :: ((if o.verbose then extracted ++ assertions else []) ++ failure ++ body ++ branch)

/-- A step and its response. -/
def step (o : Settings) (s : StepResult) (r : Response) : String :=
  "\n".intercalate (o.stepLines s r)

/-- What is printed before a chain runs. -/
def chainHeader (o : Settings) (chain : String) (steps : Nat) : String :=
  "\nRunning chain " ++ o.paint .bold chain ++ " (" ++ toString steps ++ " steps defined)...\n\n"

/-- The row of a step, counted from one. -/
def summaryRow (s : StepResult) (index : Nat) : List String :=
  [toString index, indent s.depth ++ s.request, s.method.name, s.url, toString s.status,
    toString (s.duration / 1000) ++ "ms"]

/-- What is printed behind a chain. -/
def summary (o : Settings) (r : Report) : String :=
  let rows := r.steps.zipIdx.map fun (s, i) => summaryRow s (i + 1)
  "\n" ++ table ["#", "Request", "Method", "URL", "Status", "Duration"] rows ++ "\n  " ++
    o.paint .bold r.chain ++ ": " ++
    o.paint (.colored .green) (toString r.requestCount) ++ " requests, " ++
    o.paint (.colored .green) (toString r.assertionCount) ++ " assertions passed, " ++
    secondsText r.totalDuration ++ "s\n\n"

/-- What is printed of a single request. -/
def exchange (o : Settings) (request : Request) (r : Response) : String :=
  (if o.verbose then o.paint (.colored .cyan) request.method.name ++ " " ++ request.url ++ "\n"
    else "") ++ o.response r ++ "\n"

end Settings

end HttpChain.Console
