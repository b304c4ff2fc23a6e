import HttpChain.Assertion
import HttpChain.Variable.Capture

/-!
# HttpChain.Chain.Basic

Chains: trees of steps.  Each step sends one request, captures values of its
response and checks assertions; the status of the response may lead into a
branch with steps of its own.
-/

namespace HttpChain

/-- What a step does itself. -/
structure Action where
  request : String
  extract : List Capture
  assertions : List Assertion
  locals : List (String × String)
deriving DecidableEq

/-- A step: what it does, and the steps below each status. -/
inductive Step where
  | mk (action : Action) (branches : List (Nat × List Step))

namespace Step

/-- What a step does itself. -/
def action : Step → Action
  | mk a _ => a

/-- The steps below each status. -/
def branches : Step → List (Nat × List Step)
  | mk _ bs => bs

/-- The steps of the first branch of a status. -/
def branchFor (s : Step) (status : Nat) : Option (List Step) :=
  (s.branches.find? fun b => b.1 = status).map Prod.snd

mutual

/-- The number of steps of a step and its branches. -/
def count : Step → Nat
  | mk _ bs => 1 + branchCount bs

/-- The number of steps of branches. -/
def branchCount : List (Nat × List Step) → Nat
  | [] => 0
  | (_, ss) :: bs => listCount ss + branchCount bs

/-- The number of steps in a list and their branches. -/
def listCount : List Step → Nat
  | [] => 0
  | s :: ss => count s + listCount ss

end

theorem listCount_append (ss ts : List Step) :
    listCount (ss ++ ts) = listCount ss + listCount ts := by
  induction ss with
  | nil => simp [listCount]
  | cons s ss ih => simp only [List.cons_append, listCount, ih, Nat.add_assoc]

/-- The branch of a status has fewer steps than the step that it is below. -/
theorem listCount_branchFor_lt (s : Step) (status : Nat) :
    listCount ((s.branchFor status).getD []) < s.count := by
  obtain ⟨a, bs⟩ := s
  suffices h : listCount (((bs.find? fun b => b.1 = status).map Prod.snd).getD []) ≤
      branchCount bs by
    simp only [branchFor, branches, count]
    omega
  induction bs with
  | nil => simp [listCount]
  | cons b bs ih =>
    obtain ⟨code, ss⟩ := b
    rw [List.find?_cons]
    split
    · simp [branchCount]
    · simp only [branchCount]
      omega

end Step

/-- A chain. -/
structure Chain where
  name : String
  steps : List Step

/-- The number of steps of a chain, with all branches. -/
def Chain.stepCount (c : Chain) : Nat := Step.listCount c.steps

end HttpChain
