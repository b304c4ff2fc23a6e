import HttpChain.Comparison
import HttpChain.Variable.Substitution

/-!
# HttpChain.Assertion

Assertions compare two templates in a context.  A list of them is checked in
order and ends at the first one that fails.
-/

namespace HttpChain

/-- A comparison of two templates. -/
structure Assertion where
  left : String
  comparison : Comparison
  right : String
deriving DecidableEq

namespace Assertion

/-- The form in which an assertion is shown. -/
def display (a : Assertion) : String :=
  a.left ++ " " ++ a.comparison.symbol ++ " " ++ a.right

/-- What became of an assertion: its place in its list, counted from one, and
its operands after substitution. -/
structure Verdict where
  index : Nat
  passed : Bool
  left : String
  comparison : Comparison
  right : String
deriving DecidableEq

/-- Substitute both operands and compare them. -/
def evaluate (index : Nat) (a : Assertion) (ctx : Context) : Drawing Verdict := do
  let left ← substitute .plain ctx a.left
  let right ← substitute .plain ctx a.right
  pure ⟨index, a.comparison.compare left right, left, a.comparison, right⟩

/-- Evaluate assertions in order, numbered from `index`, up to the first that
fails: the verdicts of the ones that passed, or that of the one that failed. -/
def checkFrom (index : Nat) (ctx : Context) :
    List Assertion → Drawing (Except Verdict (List Verdict))
  | [] => pure (.ok [])
  | a :: rest => do
    let v ← a.evaluate index ctx
    if v.passed then
      let vs ← checkFrom (index + 1) ctx rest
      pure (vs.map (v :: ·))
    else pure (.error v)

/-- Evaluate assertions in order, up to the first that fails. -/
def check (as : List Assertion) (ctx : Context) : Drawing (Except Verdict (List Verdict)) :=
  checkFrom 1 ctx as

/-- Assertions that do not fail: each has its verdict, in order, and has passed. -/
theorem checkFrom_ok {index : Nat} {ctx : Context} {as : List Assertion} {vs : List Verdict}
    {draws : Draws} (h : (checkFrom index ctx as draws).1 = .ok vs) :
    vs.map Verdict.index = List.range' index as.length ∧
      vs.map Verdict.comparison = as.map Assertion.comparison ∧ ∀ v ∈ vs, v.passed = true := by
  induction as generalizing index vs draws with
  | nil =>
    cases h
    exact ⟨rfl, rfl, fun v hv => by simp at hv⟩
  | cons a as ih =>
    rw [checkFrom, Drawing.bind_apply] at h
    split at h
    · next hpassed =>
      rw [Drawing.bind_apply] at h
      rcases hrest : checkFrom (index + 1) ctx as (a.evaluate index ctx draws).2 with ⟨v | ws, d⟩
      · rw [hrest] at h
        cases h
      · rw [hrest] at h
        cases h
        obtain ⟨hindex, hcomparison, hall⟩ := ih (congrArg Prod.fst hrest)
        refine ⟨?_, ?_, List.forall_mem_cons.2 ⟨hpassed, hall⟩⟩
        · rw [List.map_cons, hindex, List.length_cons, List.range'_succ]
          rfl
        · rw [List.map_cons, List.map_cons, hcomparison]
          rfl
    · cases h

end Assertion

end HttpChain
