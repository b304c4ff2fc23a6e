import HttpChain.Proofs.Run.Turn
import HttpChain.Proofs.Run.Walk
import Mathlib.Data.List.Forall2

/-!
# HttpChain.Proofs.Run.Report

What a run shows and reports.  The steps of a run that begin are those of the
walk of its chain by the statuses that it receives, up to the one that ends the
run; each that has a response is shown at its place in the walk, and the report
of a run that passes has a record for every step of the walk (`runChain_walk`).
-/

namespace HttpChain

/-! ## what is shown of a step -/

namespace Position

/-- What is shown of a step with a response. -/
structure Shown (p : Position) (o : StepResult × Response) : Prop where
  depth : o.1.depth = p.depth
  request : o.1.request = p.name
  status : o.1.status = o.2.status.code

/-- What is on record of a step that passed: whether there is a branch to go
into, and a verdict for each assertion. -/
structure Recorded (p : Position) (result : StepResult) : Prop where
  depth : result.depth = p.depth
  request : result.request = p.name
  branched : result.branched = (p.step.branchFor result.status).isSome
  indices : result.assertions.map Assertion.Verdict.index =
    List.range' 1 p.step.action.assertions.length
  comparisons : result.assertions.map Assertion.Verdict.comparison =
    p.step.action.assertions.map Assertion.comparison
  passed : ∀ v ∈ result.assertions, v.passed = true

end Position

/-- The statuses of the responses that were shown, and then any others. -/
def received (shown : List (StepResult × Response)) (further : Nat → Nat) (k : Nat) : Nat :=
  (shown[k]?.map fun o => o.2.status.code).getD (further k)

theorem received_zero (o : StepResult × Response) (shown : List (StepResult × Response))
    (further : Nat → Nat) : received (o :: shown) further 0 = o.2.status.code :=
  rfl

theorem received_succ (o : StepResult × Response) (shown : List (StepResult × Response))
    (further : Nat → Nat) :
    (fun k => received (o :: shown) further (k + 1)) =
      received shown fun k => further (k + 1) :=
  rfl

namespace Runner

theorem hasBranch_eq_isSome (step : Step) (status : Nat) :
    hasBranch step.branches status = (step.branchFor status).isSome := by
  rw [hasBranch, Step.branchFor, Option.isSome_map, List.isSome_find?]
  rfl

/-- A turn shows at most its own step, and sends at most its own request. -/
theorem Taken.shows {r : Runner} {p : Position} {s t : RunState} {x : Except Error StepResult}
    (h : Taken r p s x t) :
    ∃ sends shown, t.sent = s.sent ++ sends ∧ t.observed = s.observed ++ shown ∧
      sends.length ≤ 1 ∧ List.Forall₂ Position.Shown ([p].take shown.length) shown := by
  cases h with
  | unnamed hn | unresolved hn hq | withheld hn hq hc =>
    exact ⟨[], [], (List.append_nil _).symm, (List.append_nil _).symm, Nat.zero_le _, .nil⟩
  | abandoned hq ho | refused hq ho =>
    exact ⟨_, [], rfl, (List.append_nil _).symm, Nat.le_refl _, .nil⟩
  | failed hq ho hv | passed hq ho hv =>
    exact ⟨_, _, rfl, rfl, Nat.le_refl _, .cons ⟨rfl, rfl, rfl⟩ .nil⟩

/-! ## runs -/

/-- How a run follows the walk of an agenda. -/
structure Walked (ps : List Position) (s : RunState) (ts : List Turn)
    (x : Except Error (List StepResult)) (u : RunState) (sends : List Request)
    (shown : List (StepResult × Response)) : Prop where
  sent : u.sent = s.sent ++ sends
  observed : u.observed = s.observed ++ shown
  count : sends.length ≤ ts.length
  along : ∀ further, ts.map Turn.position <+: Position.walk ps (received shown further)
  shows : List.Forall₂ Position.Shown ((ts.map Turn.position).take shown.length) shown
  whole : ∀ results, x = .ok results →
    results = shown.map Prod.fst ∧ List.Forall₂ Position.Recorded (ts.map Turn.position) results ∧
      ∀ further, ts.map Turn.position = Position.walk ps (received shown further)

/-- A run that passes its first step follows the walk that goes on below it. -/
theorem Walked.cons {p : Position} {ps : List Position} {s t u : RunState} {ts : List Turn}
    {x : Except Error (List StepResult)} {q : Request} {result : StepResult} {response : Response}
    {sends : List Request} {shown : List (StepResult × Response)}
    (hsent : t.sent = s.sent ++ [q]) (hobserved : t.observed = s.observed ++ [(result, response)])
    (hstatus : result.status = response.status.code) (hp : p.Recorded result)
    (rest : Walked (p.below result.status ++ ps) t ts x u sends shown) :
    Walked (p :: ps) s (⟨p, s⟩ :: ts) (x.map (result :: ·)) u (q :: sends)
      ((result, response) :: shown) := by
  have hwalk : ∀ further, Position.walk (p :: ps) (received ((result, response) :: shown) further) =
      p :: Position.walk (p.below result.status ++ ps) (received shown fun k => further (k + 1)) := by
    intro further
    rw [Position.walk_cons, received_zero, received_succ, hstatus]
  refine ⟨?_, ?_, ?_, ?_, ?_, ?_⟩
  · rw [rest.sent, hsent, List.append_assoc, List.singleton_append]
  · rw [rest.observed, hobserved, List.append_assoc, List.singleton_append]
  · simpa using rest.count
  · intro further
    rw [hwalk, List.map_cons, List.prefix_cons_inj]
    exact rest.along _
  · exact .cons ⟨hp.depth, hp.request, hstatus⟩ rest.shows
  · intro results hx
    cases x with
    | error e => cases hx
    | ok more =>
      cases hx
      obtain ⟨rfl, hrecorded, hwhole⟩ := rest.whole more rfl
      refine ⟨rfl, .cons hp hrecorded, fun further => ?_⟩
      rw [hwalk, List.map_cons, hwhole]

/-- Every run follows the walk of its agenda. -/
theorem Course.walked {r : Runner} {ps : List Position} {s u : RunState} {ts : List Turn}
    {x : Except Error (List StepResult)} (h : Course r ps s ts x u) :
    ∃ sends shown, Walked ps s ts x u sends shown := by
  induction h with
  | done =>
    refine ⟨[], [], (List.append_nil _).symm, (List.append_nil _).symm, Nat.le_refl _, ?_, .nil, ?_⟩
    · simp
    · rintro _ ⟨⟩
      simp
  | @stop p ps s t e h =>
    obtain ⟨sends, shown, hsent, hobserved, hcount, hshown⟩ := (taken_of_takeTurn h).shows
    refine ⟨sends, shown, hsent, hobserved, hcount, fun further => ?_, hshown, fun _ hx => by cases hx⟩
    rw [Position.walk_cons]
    exact ⟨_, rfl⟩
  | @step p ps s t u result ts x h rest ih =>
    obtain ⟨sends, shown, ih⟩ := ih
    cases taken_of_takeTurn h with
    | @passed q draws draws' log response vs hq ho hv =>
      obtain ⟨hindex, hcomparison, hpassed⟩ := Assertion.checkFrom_ok (congrArg Prod.fst hv)
      exact ⟨_, _, .cons rfl rfl rfl
        ⟨rfl, rfl, hasBranch_eq_isSome _ _, hindex, hcomparison, hpassed⟩ ih⟩

/-- A run of a chain follows a walk of its tree.  For any statuses behind those
that were received, the steps that begin are a prefix of the walk; each shown
step stands at its place in it; no step begins twice, and each is a step of the
tree; and there are no more requests than steps in the tree.  When the run
passes, the walk was followed to its end, and the report has a record for each
of its steps, in order. -/
theorem runChain_walk (r : Runner) (c : Chain) (ctx : Context) (draws : Draws) (cancelled : Bool)
    (further : Nat → Nat) :
    let s := RunState.start ctx draws cancelled
    let final := (r.runChain c s).2
    let walk := Position.walk c.positions (received final.observed further)
    r.begun c s <+: walk ∧
    List.Forall₂ Position.Shown ((r.begun c s).take final.observed.length) final.observed ∧
    ((r.begun c s).map Position.key).Nodup ∧
    (∀ p ∈ r.begun c s, p.Of c.steps) ∧
    final.sent.length ≤ c.stepCount ∧
    ∀ report, (r.runChain c s).1 = .ok report →
      report.chain = c.name ∧ report.steps = final.observed.map Prod.fst ∧
        r.begun c s = walk ∧ List.Forall₂ Position.Recorded walk report.steps := by
  intro s final walk
  obtain ⟨x, u, hcourse, hend, -, hsent, hobserved⟩ := r.records_runChain c s
  obtain ⟨sends, shown, hwalked⟩ := hcourse.walked
  have hobserved : final.observed = shown := hobserved.trans hwalked.observed
  have hsent : final.sent = sends := hsent.trans hwalked.sent
  have halong : r.begun c s <+: walk := by
    simp only [walk, hobserved]
    exact hwalked.along further
  refine ⟨halong, ?_, ?_, fun p hp => ?_, ?_, fun report hreport => ?_⟩
  · rw [hobserved]
    exact hwalked.shows
  · exact (Position.nodup_walk (Position.pairwise_ofSteps _ _ _) _).sublist
      (halong.sublist.map Position.key)
  · exact Position.of_mem_walk Position.of_mem_positions p (halong.subset hp)
  · have hcount : sends.length ≤ (r.begun c s).length := by
      rw [begun, List.length_map]
      exact hwalked.count
    have hwalk : walk.length ≤ Step.listCount c.steps := by
      rw [← Position.weight_ofSteps [] 0 c.steps]
      exact Position.length_walk_le _ _
    rw [hsent, Chain.stepCount]
    exact Nat.le_trans hcount (Nat.le_trans halong.length_le hwalk)
  · rw [hend] at hreport
    cases x with
    | error e => cases hreport
    | ok results =>
      cases hreport
      obtain ⟨rfl, hrecorded, hwhole⟩ := hwalked.whole results rfl
      have hbegun : r.begun c s = walk := by
        simp only [walk, hobserved]
        exact hwhole further
      exact ⟨rfl, by rw [hobserved], hbegun, hbegun ▸ hrecorded⟩

end Runner

end HttpChain
