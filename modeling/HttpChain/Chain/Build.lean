import HttpChain.Chain.Basic
import HttpChain.Config.Basic

/-!
# HttpChain.Chain.Build

From a chain as it is written to one that can run.  Operators and status codes
are read here, on every level, so that a mistake anywhere is found before the
first request; the place of a step is counted in its own list.
-/

namespace HttpChain

/-- The status code that a key names: a number from 100 to 599. -/
def statusKey? (key : String) : Option Nat :=
  let digits := match Text.trim key.toList with
    | '+' :: ds => ds
    | ds => ds
  let code := Text.decimalValue digits
  if digits ≠ [] ∧ digits.all Text.isDigit ∧ 100 ≤ code ∧ code < 600 then some code else none

/-- Read an assertion of a step. -/
def RawAssertion.build (index : Nat) (a : RawAssertion) : Except Error Assertion :=
  match Comparison.ofText? a.operator with
  | some c => pure ⟨a.left, c, a.right⟩
  | none => throw (.unknownOperator a.operator index)

/-- Read the assertions of a step, up to the first mistake. -/
def buildAssertions (index : Nat) : List RawAssertion → Except Error (List Assertion)
  | [] => pure []
  | a :: as => do
    let b ← a.build index
    let bs ← buildAssertions index as
    pure (b :: bs)

/-- What a step does itself, with its assertions read. -/
def RawAction.build (a : RawAction) (assertions : List Assertion) : Action :=
  { request := Text.strip a.request
    extract := a.extract.toList.map fun e => ⟨e.1, e.2⟩
    assertions
    locals := a.locals.toList }

namespace RawStep

mutual

/-- Read a step. -/
def build (index : Nat) : RawStep → Except Error Step
  | mk a branches => do
    let assertions ← buildAssertions index a.assertions
    let bs ← buildBranches index branches
    pure (.mk (a.build assertions) bs)

/-- Read the branches of a step, up to the first mistake. -/
def buildBranches (index : Nat) :
    List (String × List RawStep) → Except Error (List (Nat × List Step))
  | [] => pure []
  | (key, steps) :: rest =>
    match statusKey? key with
    | none => throw (.invalidStatus key index)
    | some code => do
      let ss ← buildList 1 steps
      let bs ← buildBranches index rest
      pure ((code, ss) :: bs)

/-- Read steps, the first of which has the given place. -/
def buildList (index : Nat) : List RawStep → Except Error (List Step)
  | [] => pure []
  | s :: ss => do
    let t ← build index s
    let ts ← buildList (index + 1) ss
    pure (t :: ts)

end

end RawStep

/-- Read a chain. -/
def Chain.build (name : String) (steps : List RawStep) : Except Error Chain := do
  let ss ← RawStep.buildList 1 steps
  pure ⟨name, ss⟩

/-- Read the chain of a name. -/
def Config.loadChain (c : Config) (name : String) : Except Error Chain := do
  let steps ← c.chainSteps name
  Chain.build name steps

end HttpChain
