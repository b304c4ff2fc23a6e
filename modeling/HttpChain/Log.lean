import HttpChain.Text.Ascii

/-!
# HttpChain.Log

Log events and the filter that decides which of them are shown.  A filter is a
list of directives separated by commas, each a level, a topic, or a topic with
a level; the directive with the longest topic that an event's topic begins
with decides about it.
-/

namespace HttpChain.Log

/-- How important an event is. -/
inductive Level where
  | error
  | warn
  | info
  | debug
  | trace
deriving DecidableEq, Inhabited

namespace Level

/-- The rank of a level; a filter of some rank lets lower ranks through. -/
def rank : Level → Nat
  | error => 1
  | warn => 2
  | info => 3
  | debug => 4
  | trace => 5

/-- The name of a level. -/
def name : Level → String
  | error => "ERROR"
  | warn => "WARN"
  | info => "INFO"
  | debug => "DEBUG"
  | trace => "TRACE"

end Level

/-- The activity that an event is about. -/
inductive Topic where
  | program
  | logging
  | configFile
  | resolving
  | capturing
  | exchange
  | running
  | writingBack
deriving DecidableEq, Inhabited

/-- The path by which a filter names a topic. -/
def Topic.path : Topic → String
  | program => "chainpost"
  | logging => "chainpost::logger"
  | configFile => "chainpost::config::loader"
  | resolving => "chainpost::http::resolver"
  | capturing => "chainpost::variable::capture"
  | exchange => "chainpost::http::client"
  | running => "chainpost::runner::executor"
  | writingBack => "chainpost::runner::writeback"

/-- An event. -/
structure Event where
  level : Level
  topic : Topic
  text : String
deriving DecidableEq, Inhabited

/-- A directive: events whose topic starts with `topic` are shown up to a
rank. -/
structure Directive where
  topic : List Char
  rank : Nat
deriving DecidableEq

/-- A filter: its directives, in the order written. -/
abbrev Filter := List Directive

namespace Filter

/-- The filter that shows everything up to a level. -/
def upTo (level : Level) : Filter := [⟨[], level.rank⟩]

/-- The rank that a text names: a level, `off`, or a digit up to five. -/
def rank? (cs : List Char) : Option Nat :=
  match String.ofList (Text.foldCase cs) with
  | "off" => some 0
  | "error" => some 1
  | "warn" => some 2
  | "info" => some 3
  | "debug" => some 4
  | "trace" => some 5
  | _ =>
    let digits := match cs with
      | '+' :: ds => ds
      | ds => ds
    if digits ≠ [] ∧ digits.all Text.isDigit ∧ Text.decimalValue digits ≤ 5 then
      some (Text.decimalValue digits)
    else none

/-- Characters that a directive may start with. -/
def startsDirective (c : Char) : Bool :=
  c.isAlphanum || c == '-' || c == ':' || c == '_' || 128 ≤ c.toNat

/-- A directive of a text. -/
def directive? (cs : List Char) : Option Directive :=
  match cs with
  | [] => none
  | c :: _ =>
    if !startsDirective c ∨ cs.contains '[' then none
    else match Text.splitOnce '=' cs with
      | some (topic, []) => some ⟨topic, 5⟩
      | some (topic, level) => (rank? level).map fun r => ⟨topic, r⟩
      | none => some ((rank? cs).elim ⟨cs, 5⟩ fun r => ⟨[], r⟩)

/-- The filter of a text; a text without directives shows errors only. -/
def ofText? (text : String) : Option Filter := do
  let ds ← ((Text.splitAll ',' text.toList).filter (· ≠ [])).mapM directive?
  pure (if ds = [] then upTo .error else ds)

/-- The directive that decides about a topic: of those whose topic it begins
with the longest, and of equally long ones the last. -/
def deciding (f : Filter) (topic : List Char) : Option Directive :=
  (f.filter fun d => d.topic.isPrefixOf topic).foldl (fun best d =>
    match best with
    | none => some d
    | some b => if d.topic.length < b.topic.length then some b else some d) none

/-- Whether an event is shown. -/
def shows (f : Filter) (e : Event) : Bool :=
  match f.deciding e.topic.path.toList with
  | some d => e.level.rank ≤ d.rank
  | none => false

end Filter

/-- The line that shows an event, behind its time. -/
def Event.line (e : Event) : String :=
  let name := e.level.name
  String.ofList (List.replicate (5 - name.length) ' ') ++ name ++ " " ++ e.text

end HttpChain.Log
