import HttpChain.Proofs.Assertion
import HttpChain.Proofs.Run.Report

/-!
# HttpChain.Proofs.Run.Gate

Assertions as the gate of a branch.  A list of assertions is passed by passing each of
them, and is otherwise failed at the first that fails (`check_exact`).  A step with a
response therefore goes into a branch exactly if each of its assertions passes behind its
captures and the status has a branch (`enters_iff`).  If the status has none, the step is
over (`runStep_of_no_branch`); if an assertion fails, the run ends there, with the error
that has its number and its operands (`takeTurn_of_not_passes`).
-/

namespace HttpChain

namespace Runner

/-- A step goes into a branch: it passes by itself and is on record as branched, and what
there is to run of it is the steps of the branch, from the state that the step leaves and
one level further down. -/
def Enters (r : Runner) (p : Position) (s : RunState) (branch : List Step) : Prop :=
  ∃ result t,
    r.perform p.depth (p.index + 1) p.step.action (hasBranch p.step.branches) s =
      (.ok result, t) ∧
    result.branched = true ∧ p.step.branchFor result.status = some branch ∧
    r.runStep p.depth (p.index + 1) p.step s =
      proceed (r.runPositions (Position.ofSteps (p.path ++ [(p.index, result.status)]) 0 branch)
        (t.say [branchEvent result])) fun results u => (.ok (result :: results), u)

/-- The assertions of a step pass, each by itself, behind its captures. -/
def PassesAll (p : Position) (s : RunState) (response : Response) : Prop :=
  ∀ a ∈ p.step.action.assertions, a.Passes (captured p response s).context

variable {r : Runner} {p : Position} {s : RunState} {q : Request} {draws : Draws}
  {response : Response}

/-- A step whose assertions pass goes on below its place, where the branch of the status is,
if there is one. -/
theorem takeTurn_of_passes (hq : Sends r p s q draws)
    (ho : (r.delivery s q).outcome = some (.ok response))
    (hstatic : ∀ a ∈ p.step.action.assertions, a.Static)
    (hpasses : PassesAll p s response) :
    ∃ result t, r.takeTurn p s = (.ok result, t) ∧ result.status = response.status.code ∧
      result.branched = (p.step.branchFor response.status.code).isSome ∧
      t.sent = s.sent ++ [q] := by
  have hv : Assertion.check p.step.action.assertions (captured p response s).context draws =
      (.ok _, draws) := (Assertion.check_eq_ok_iff hstatic).2 ⟨hpasses, rfl, rfl⟩
  obtain ⟨log, hturn⟩ := takeTurn_of_taken (@Taken.passed r p s q draws draws [] response _ hq ho hv)
  exact ⟨_, _, hturn, rfl, hasBranch_eq_isSome _ _, rfl⟩

/-- A step one of whose assertions fails ends the run with the error of the first one. -/
theorem takeTurn_of_not_passes (hq : Sends r p s q draws)
    (ho : (r.delivery s q).outcome = some (.ok response))
    (hstatic : ∀ a ∈ p.step.action.assertions, a.Static)
    (hfails : ¬ PassesAll p s response) :
    ∃ v t, Assertion.check p.step.action.assertions (captured p response s).context draws =
        (.error v, draws) ∧ r.takeTurn p s = (.error v.error, t) ∧ t.sent = s.sent ++ [q] := by
  obtain ⟨before, a, after, hsplit, hbefore, ha⟩ := Assertion.exists_first_failure hfails
  have hv : Assertion.check p.step.action.assertions (captured p response s).context draws =
      (.error _, draws) := (Assertion.check_eq_error_iff hstatic).2
    ⟨before, a, after, hsplit, hbefore, ha, rfl, rfl⟩
  obtain ⟨log, hturn⟩ := takeTurn_of_taken (@Taken.failed r p s q draws draws [] response _ hq ho hv)
  exact ⟨_, _, hv, hturn, rfl⟩

/-- A step goes into the branch of its status as soon as its turn passes. -/
theorem enters_of_takeTurn {result : StepResult} {t : RunState} {branch : List Step}
    (hturn : r.takeTurn p s = (.ok result, t)) (hbranched : result.branched = true)
    (hbranch : p.step.branchFor result.status = some branch) : r.Enters p s branch := by
  obtain ⟨u, hperform, rfl⟩ := takeTurn_eq_ok_iff.1 hturn
  have hbelow : p.below result.status =
      Position.ofSteps (p.path ++ [(p.index, result.status)]) 0 branch := by
    rw [Position.below, hbranch, Option.getD_some]
  have hevents : branchEvents p result = [branchEvent result] := by
    rw [branchEvents, hbranch, Option.isSome_some, if_pos rfl]
  refine ⟨result, u, hperform, hbranched, hbranch, ?_⟩
  rw [runStep_eq_takeTurn, hturn, proceed_ok, hbelow, hevents]

/-- A step with a response goes into a branch exactly if its assertions pass and its status
has one. -/
theorem enters_iff (hq : Sends r p s q draws)
    (ho : (r.delivery s q).outcome = some (.ok response))
    (hstatic : ∀ a ∈ p.step.action.assertions, a.Static) (branch : List Step) :
    r.Enters p s branch ↔
      PassesAll p s response ∧ p.step.branchFor response.status.code = some branch := by
  constructor
  · rintro ⟨result, t, hperform, -, hbranch, -⟩
    have hturn := takeTurn_eq_ok_iff.2 ⟨t, hperform, rfl⟩
    have hpasses : PassesAll p s response := by
      by_contra hfails
      obtain ⟨v, t', -, hfailed, -⟩ := takeTurn_of_not_passes hq ho hstatic hfails
      rw [hfailed] at hturn
      cases hturn
    obtain ⟨result', t', hturn', hstatus, -⟩ := takeTurn_of_passes hq ho hstatic hpasses
    rw [hturn'] at hturn
    cases hturn
    exact ⟨hpasses, hstatus ▸ hbranch⟩
  · rintro ⟨hpasses, hbranch⟩
    obtain ⟨result, t, hturn, hstatus, hbranched, -⟩ := takeTurn_of_passes hq ho hstatic hpasses
    refine enters_of_takeTurn hturn ?_ (hstatus ▸ hbranch)
    rw [hbranched, hbranch, Option.isSome_some]

/-- A step that passes is over if its status has no branch. -/
theorem runStep_of_no_branch (hq : Sends r p s q draws)
    (ho : (r.delivery s q).outcome = some (.ok response))
    (hstatic : ∀ a ∈ p.step.action.assertions, a.Static)
    (hpasses : PassesAll p s response)
    (hnone : p.step.branchFor response.status.code = none) :
    ∃ result t, r.runStep p.depth (p.index + 1) p.step s = (.ok [result], t) ∧
      result.branched = false ∧ t.sent = s.sent ++ [q] := by
  obtain ⟨result, t, hturn, hstatus, hbranched, hsent⟩ :=
    takeTurn_of_passes hq ho hstatic hpasses
  have hbelow : p.below result.status = [] := by
    rw [Position.below, hstatus, hnone]
    rfl
  refine ⟨result, t, ?_, ?_, hsent⟩
  · rw [runStep_eq_takeTurn, hturn, proceed_ok, hbelow, runPositions_nil, proceed_ok]
  · rw [hbranched, hnone, Option.isSome_none]

end Runner

open Assertion Runner

/-- What a list of assertions comes to, exactly, if no dynamic token stands in it.  It is
passed exactly if each assertion passes by itself; then there is the verdict of each, in
order and numbered from one.  Otherwise it fails with the number of the first assertion
that does not pass by itself and with that one's own operands, and so does every list that
begins alike up to there.  In a run, a step with a response goes into a branch exactly if
each of its assertions passes by itself behind its captures and the branch is that of the
status; it is over, with one request sent, if they pass and there is none.  If one does not
pass, the step has sent its request and nothing else, no further step begins, and the error
is that of the first such assertion. -/
theorem check_exact :
    (∀ (as : List Assertion) (ctx : Context) (draws : Draws), (∀ a ∈ as, a.Static) →
      (∀ vs later, check as ctx draws = (.ok vs, later) ↔
        (∀ a ∈ as, a.Passes ctx) ∧
          vs = as.mapIdx (fun i a => (a.evaluate (i + 1) ctx draws).1) ∧ later = draws) ∧
      (∀ v later, check as ctx draws = (.error v, later) ↔
        ∃ before a after, as = before ++ a :: after ∧ (∀ b ∈ before, b.Passes ctx) ∧
          ¬ a.Passes ctx ∧ v = (a.evaluate (before.length + 1) ctx draws).1 ∧ later = draws ∧
          v.error = .assertionFailed (before.length + 1) (substitute .plain ctx a.left draws).1
            a.comparison.symbol (substitute .plain ctx a.right draws).1) ∧
      ∀ v later, check as ctx draws = (.error v, later) → ∀ others,
        others.take v.index = as.take v.index → check others ctx draws = (.error v, later)) ∧
    ∀ (r : Runner) (p : Position) (s : RunState) (q : Request) (draws : Draws)
      (response : Response), Sends r p s q draws →
      (r.delivery s q).outcome = some (.ok response) →
      (∀ a ∈ p.step.action.assertions, a.Static) →
      (∀ branch, r.Enters p s branch ↔
        (∀ a ∈ p.step.action.assertions, a.Passes (captured p response s).context) ∧
          p.step.branchFor response.status.code = some branch) ∧
      ((∀ a ∈ p.step.action.assertions, a.Passes (captured p response s).context) →
        p.step.branchFor response.status.code = none →
        ∃ result t, r.runStep p.depth (p.index + 1) p.step s = (.ok [result], t) ∧
          result.branched = false ∧ t.sent = s.sent ++ [q]) ∧
      ((∃ a ∈ p.step.action.assertions, ¬ a.Passes (captured p response s).context) →
        ∃ v t, check p.step.action.assertions (captured p response s).context draws =
            (.error v, draws) ∧
          r.runStep p.depth (p.index + 1) p.step s = (.error v.error, t) ∧
          t.sent = s.sent ++ [q] ∧
          (∀ steps, r.runSteps p.depth (p.index + 1) (p.step :: steps) s = (.error v.error, t)) ∧
          ∀ ps, r.turns (p :: ps) s = [⟨p, s⟩] ∧
            r.runPositions (p :: ps) s = (.error v.error, t)) := by
  refine ⟨fun as ctx draws hstatic => ⟨fun vs later => ?ok, fun v later => ?error, ?same⟩,
    fun r p s q draws response hq ho hstatic => ⟨enters_iff hq ho hstatic,
      runStep_of_no_branch hq ho hstatic, fun hfails => ?ends⟩⟩
  case ok => rw [check_eq_ok_iff hstatic, mapIdx_evaluate hstatic]
  case error =>
    rw [check_eq_error_iff hstatic]
    constructor
    · rintro ⟨before, a, after, rfl, hbefore, ha, rfl, rfl⟩
      have hown : a.Static := hstatic a (by simp)
      refine ⟨before, a, after, rfl, hbefore, ha, by rw [evaluate_static hown], rfl, ?_⟩
      rw [substitute_static hown.left, substitute_static hown.right]
      rfl
    · rintro ⟨before, a, after, rfl, hbefore, ha, rfl, rfl, -⟩
      have hown : a.Static := hstatic a (by simp)
      exact ⟨before, a, after, rfl, hbefore, ha, by rw [evaluate_static hown], rfl⟩
  case same => exact fun v later hcheck others hothers => check_error_of_take hstatic hcheck hothers
  case ends =>
    have hfails : ¬ PassesAll p s response := by
      obtain ⟨a, ha, hfails⟩ := hfails
      exact fun hall => hfails (hall a ha)
    obtain ⟨v, t, hcheck, hturn, hsent⟩ := takeTurn_of_not_passes hq ho hstatic hfails
    have hstep := runStep_of_takeTurn_error hturn
    refine ⟨v, t, hcheck, hstep, hsent, fun steps => ?_, fun ps => ?_⟩
    · rw [runSteps_cons, hstep, proceed_error]
    · exact ⟨turns_cons_error hturn, runPositions_cons_error hturn⟩

/-- Variables of a list of five. -/
def fiveItems : Context :=
  (Dict.empty.insert "count" (.integer ⟨5, by decide⟩)).insert "status" (.string "active")

/-- Assertions the second of which fails of five items. -/
def tenItems : List Assertion :=
  [⟨"\x7b\x7bstatus\x7d\x7d", .equal, "active"⟩, ⟨"\x7b\x7bcount\x7d\x7d", .greater, "10"⟩]

/-- A run against one response, which is no success. -/
def refusing : Runner where
  config := { Config.empty with
    requests := Dict.empty.insert "list" (RequestTemplate.bare "GET" "http://[::1]/") }
  environment _ := none
  exchange _ _ := ⟨some (.ok ⟨⟨401, by decide⟩, [], "\x7b\"count\":5\x7d", 0⟩), false, []⟩

/-- The steps of its branch, which are for a request that it does not know. -/
def loginSteps : List Step := [.mk ⟨"login", [], [], []⟩ []]

/-- A step whose assertion is about what it captures. -/
def countingStep : Position :=
  ⟨[], 0, .mk ⟨"list", [⟨"count", "count"⟩], [⟨"\x7b\x7bcount\x7d\x7d", .atLeast, "5"⟩], []⟩
    [(401, loginSteps)]⟩

/-- Running the branch fails at its first step. -/
theorem refusing_loginSteps (path : List (Nat × Nat)) (t : RunState) :
    (refusing.runPositions (Position.ofSteps path 0 loginSteps) t).1 =
      .error (.unknownRequest "login") := by
  have hname : Text.strip "login" = "login" := by decide
  simp only [loginSteps, Position.ofSteps, runPositions, runStep, perform, requestOf, hname]
  rfl

/-- The list fails at its second assertion, also with a dynamic token behind that; and the
step goes into its branch, where the run fails. -/
theorem check_exact_count :
    (∀ a ∈ tenItems, a.Static) ∧
    check tenItems fiveItems ⟨id, id, 0⟩ = (.error ⟨2, false, "5", .greater, "10"⟩, ⟨id, id, 0⟩) ∧
    check (tenItems ++ [⟨"\x7b\x7b$uuid\x7d\x7d", .equal, ""⟩]) fiveItems ⟨id, id, 0⟩ =
      (.error ⟨2, false, "5", .greater, "10"⟩, ⟨id, id, 0⟩) ∧
    (∃ q, Sends refusing countingStep (.start {} ⟨id, id, 0⟩ false) q ⟨id, id, 0⟩ ∧
      refusing.Enters countingStep (.start {} ⟨id, id, 0⟩ false) loginSteps) ∧
    (refusing.runStep 0 1 countingStep.step (.start {} ⟨id, id, 0⟩ false)).1 =
      .error (.unknownRequest "login") := by
  have hdollar : ∀ a ∈ tenItems ++ countingStep.step.action.assertions,
      '$' ∉ a.left.toList ∧ '$' ∉ a.right.toList := by decide
  have hstatic : ∀ a ∈ tenItems ++ countingStep.step.action.assertions, a.Static := fun a ha =>
    ⟨DynamicToken.not_standsAt_of_not_mem (hdollar a ha).1,
      DynamicToken.not_standsAt_of_not_mem (hdollar a ha).2⟩
  rw [List.forall_mem_append] at hstatic
  obtain ⟨hlists, hruns⟩ := check_exact
  obtain ⟨-, -, hsame⟩ := hlists tenItems fiveItems ⟨id, id, 0⟩ hstatic.1
  have hfails : check tenItems fiveItems ⟨id, id, 0⟩ =
      (.error ⟨2, false, "5", .greater, "10"⟩, ⟨id, id, 0⟩) := rfl
  have hq : Sends refusing countingStep (.start {} ⟨id, id, 0⟩ false) _ ⟨id, id, 0⟩ :=
    ⟨by decide, ⟨_, rfl⟩, rfl⟩
  obtain ⟨henters, -⟩ := hruns _ _ _ _ _ _ hq rfl hstatic.2
  have hcounting : refusing.Enters countingStep (.start {} ⟨id, id, 0⟩ false) loginSteps := by
    refine (henters loginSteps).2 ⟨fun a ha => ?_, rfl⟩
    rw [passes_iff (hstatic.2 a ha) 1, List.mem_singleton.1 ha]
    decide +kernel
  refine ⟨hstatic.1, hfails, hsame _ _ hfails _ rfl, ⟨_, hq, hcounting⟩, ?_⟩
  obtain ⟨result, t, -, -, -, hrun⟩ := hcounting
  change (refusing.runStep countingStep.depth (countingStep.index + 1) countingStep.step _).1 = _
  rw [hrun]
  exact fst_proceed_of_error (refusing_loginSteps _ _) _

end HttpChain
