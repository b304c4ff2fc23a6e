import HttpChain.Proofs.Run.Turn

/-!
# HttpChain.Proofs.Run.Flattening

Branches are control flow and nothing else.  The steps of a run that begin,
stripped of their branches, make a chain without branches; run in the same
variables and against the same replies, it does what the run of the tree did
(`runChain_flat`).  What tells the two apart is in a step's own record (how deep
it stands and whether it led into a branch) and in the number that an error
gives to a step without a name.
-/

namespace HttpChain

/-! ## without branches -/

/-- A step without its branches. -/
def Step.bare (s : Step) : Step := .mk s.action []

/-- The chain of steps without their branches. -/
def Chain.flat (name : String) (steps : List Step) : Chain := ⟨name, steps.map Step.bare⟩

/-- The result of a step as it is at the top of a chain and without branches. -/
def StepResult.flat (x : StepResult) : StepResult := { x with depth := 0, branched := false }

/-- The report of steps that are all at the top of a chain and without branches. -/
def Report.flat (x : Report) : Report := { x with steps := x.steps.map StepResult.flat }

/-- An error, with another number for the step that it says has no name. -/
def Error.renumber (n : Nat) : Error → Error
  | .missingRequest _ => .missingRequest n
  | .chainFailed chain e => .chainFailed chain (e.renumber n)
  | e => e

/-- An outcome as it is at the top of a chain and without branches, with the
given number for a step without a name. -/
def flatten {α : Type} (f : α → α) (n : Nat) (x : Except Error α) : Except Error α :=
  (x.map f).mapError (Error.renumber n)

theorem flatten_error {α : Type} (f : α → α) (n : Nat) (e : Error) :
    flatten f n (.error e) = .error (e.renumber n) := rfl

/-- A fault of the config has no step number. -/
theorem Error.renumber_of_config {e : Error}
    (he : (∃ f, e = .config f) ∨ ∃ name, e = .unknownRequest name) (n : Nat) :
    e.renumber n = e := by
  rcases he with ⟨f, rfl⟩ | ⟨name, rfl⟩ <;> rfl

/-- A step at the top of a chain and without its branches. -/
def Position.flat (p : Position) (index : Nat) : Position := ⟨[], index, p.step.bare⟩

/-- Nothing is below a step without branches. -/
theorem Position.below_flat (p : Position) (index status : Nat) : (p.flat index).below status = [] :=
  rfl

/-- Two runs that have come to the same, but for the records of how steps stand
in their chains and for what was said. -/
structure RunState.Alike (s t : RunState) : Prop where
  context : t.context = s.context
  draws : t.draws = s.draws
  cancelled : t.cancelled = s.cancelled
  sent : t.sent = s.sent
  observed : t.observed = s.observed.map fun o => (o.1.flat, o.2)

namespace Runner

/-- What a part of one run comes to, flattened, is what a part of another does. -/
def Matches {α : Type} (f : α → α) (n : Nat) (x y : Outcome α) : Prop :=
  ∃ t, y = (flatten f n x.1, t) ∧ x.2.Alike t

variable {r : Runner} {s t : RunState}

/-! ## a turn in two places -/

/-- Sending a request comes to the same in both runs. -/
theorem send_matches (h : s.Alike t) (n : Nat) (name : String) (q : Request) :
    Matches id n (r.send name q s) (r.send name q t) := by
  have hdelivery : r.delivery t q = r.delivery s q := by rw [delivery, delivery, h.sent]
  cases hc : s.cancelled with
  | true =>
    rw [send_of_cancelled hc, send_of_cancelled (h.cancelled.trans hc)]
    exact ⟨t, rfl, h⟩
  | false =>
    rw [send_of_live hc, send_of_live (h.cancelled.trans hc), hdelivery]
    have hafter : (r.sending name q s).Alike (r.sending name q t) := by
      refine ⟨h.context, h.draws, ?_, ?_, h.observed⟩
      · simp only [sending, hdelivery]
      · simp only [sending, h.sent]
    rcases (r.delivery s q).outcome with _ | cause | response <;> exact ⟨_, rfl, hafter⟩

/-- Taking in a response comes to the same in both runs. -/
theorem conclude_matches (h : s.Alike t) (depth n : Nat) (name : String) (a : Action)
    (branched : Nat → Bool) (q : Request) (response : Response) :
    Matches StepResult.flat n (conclude depth name a branched q response s)
      (conclude 0 name a (fun _ => false) q response t) := by
  simp only [conclude, h.context, h.draws]
  rcases Assertion.check a.assertions (capture name response.body a.extract s.context).context s.draws
    with ⟨v | vs, d⟩
  · refine ⟨_, rfl, rfl, rfl, h.cancelled, h.sent, ?_⟩
    simp [RunState.say, StepResult.flat, h.observed]
  · refine ⟨_, rfl, rfl, rfl, h.cancelled, h.sent, ?_⟩
    simp [RunState.say, StepResult.flat, h.observed]

/-- A step does the same at its place in a tree and at the top of a chain. -/
theorem perform_matches (h : s.Alike t) (depth index n : Nat) (a : Action) (branched : Nat → Bool) :
    Matches StepResult.flat n (r.perform depth index a branched s)
      (r.perform 0 n a (fun _ => false) t) := by
  rw [perform, perform]
  by_cases hn : Text.strip a.request = ""
  · simp only [hn, if_true]
    exact ⟨t, rfl, h⟩
  · simp only [hn, if_false]
    rcases hq : r.resolution a s.context s.draws with ⟨e | ⟨q, events⟩, draws⟩
    · have hq' : r.resolution a t.context t.draws = (.error e, draws) := by
        rw [h.context, h.draws, hq]
      have he := Error.renumber_of_config (error_of_resolution (congrArg Prod.fst hq)) n
      simp only [requestOf_error hq, requestOf_error hq']
      refine ⟨{ t with draws }, ?_, h.context, rfl, h.cancelled, h.sent, h.observed⟩
      rw [flatten_error, he]
    · have hq' : r.resolution a t.context t.draws = (.ok (q, events), draws) := by
        rw [h.context, h.draws, hq]
      have hready : RunState.Alike { s with draws, log := s.log ++ events }
          { t with draws, log := t.log ++ events } :=
        ⟨h.context, rfl, h.cancelled, h.sent, h.observed⟩
      obtain ⟨t₁, ht, hafter⟩ := send_matches (r := r) hready n (Text.strip a.request) q
      simp only [requestOf_ok hq, requestOf_ok hq', ht]
      rcases hs : r.send (Text.strip a.request) q { s with draws, log := s.log ++ events }
        with ⟨e | response, s₁⟩
      · rw [hs] at hafter
        exact ⟨t₁, rfl, hafter⟩
      · rw [hs] at hafter
        exact conclude_matches hafter depth n _ a branched q response

theorem takeTurn_flat (p : Position) (index : Nat) :
    r.takeTurn (p.flat index) t =
      proceed (r.perform 0 (index + 1) p.step.action (fun _ => false) t) fun result t =>
        (.ok result, t.say (branchEvents (p.flat index) result)) := by
  rw [takeTurn]
  rfl

/-- The turn of a step comes to the same in both runs. -/
theorem takeTurn_matches (h : s.Alike t) (p : Position) (index : Nat) :
    Matches StepResult.flat (index + 1) (r.takeTurn p s) (r.takeTurn (p.flat index) t) := by
  obtain ⟨t₁, ht, hafter⟩ := perform_matches (r := r) h p.depth (p.index + 1) (index + 1)
    p.step.action (hasBranch p.step.branches)
  rw [takeTurn, takeTurn_flat, ht]
  rcases hp : r.perform p.depth (p.index + 1) p.step.action (hasBranch p.step.branches) s
    with ⟨e | result, s₁⟩
  · rw [hp] at hafter
    exact ⟨t₁, rfl, hafter⟩
  · rw [hp] at hafter
    exact ⟨_, rfl, hafter.context, hafter.draws, hafter.cancelled, hafter.sent, hafter.observed⟩

/-! ## a run along its own steps -/

/-- The steps of turns as a list, the first of which has the given place. -/
def line (index : Nat) (ts : List Turn) : List Position :=
  Position.ofSteps [] index (ts.map fun v => v.position.step.bare)

theorem line_cons (index : Nat) (v : Turn) (ts : List Turn) :
    line index (v :: ts) = v.position.flat index :: line (index + 1) ts :=
  rfl

/-- The steps of a run that begin, run as a list, do what the run did. -/
theorem Course.matches {ps : List Position} {u : RunState} {ts : List Turn}
    {x : Except Error (List StepResult)} (h : Course r ps s ts x u) (hst : s.Alike t) (index : Nat) :
    Matches (List.map StepResult.flat) (index + ts.length) (x, u)
      (r.runPositions (line index ts) t) := by
  induction h generalizing t index with
  | done => exact ⟨t, rfl, hst⟩
  | @stop p ps s u e h =>
    obtain ⟨t₁, ht, hafter⟩ := takeTurn_matches (r := r) hst p index
    rw [h] at ht hafter
    rw [line_cons, runPositions_cons_error ht]
    exact ⟨t₁, rfl, hafter⟩
  | @step p ps s s₁ u result ts x h rest ih =>
    obtain ⟨t₁, ht, hafter⟩ := takeTurn_matches (r := r) hst p index
    rw [h] at ht hafter
    obtain ⟨t₂, hrest, hend⟩ := ih hafter (index + 1)
    rw [line_cons, runPositions_cons_ok ht, Position.below_flat, List.nil_append, hrest,
      List.length_cons, Nat.add_right_comm, ← Nat.add_assoc]
    cases x <;> exact ⟨t₂, rfl, hend⟩

/-- A run of a chain and the run of the steps that begin in it, stripped of
their branches: the same requests are sent in the same order, the same responses
are shown with the same results, the same variables are left, and the end is the
same report or the same error.  Only how deep a step stands, whether it leads
into a branch and the number of a step without a name are those of the flat
chain. -/
theorem runChain_flat (r : Runner) (c : Chain) (ctx : Context) (draws : Draws)
    (cancelled : Bool) :
    let s := RunState.start ctx draws cancelled
    let steps := (r.begun c s).map Position.step
    let tree := r.runChain c s
    let flat := r.runChain (Chain.flat c.name steps) s
    flat.2.sent = tree.2.sent ∧
      flat.2.observed = tree.2.observed.map (fun o => (o.1.flat, o.2)) ∧
      flat.2.context = tree.2.context ∧ flat.2.draws = tree.2.draws ∧
      flat.2.cancelled = tree.2.cancelled ∧
      flat.1 = flatten Report.flat steps.length tree.1 := by
  intro s steps tree flat
  have hbegin : (opened c s).Alike (opened (Chain.flat c.name steps) s) :=
    ⟨rfl, rfl, rfl, rfl, rfl⟩
  obtain ⟨x, u, hcourse, htree⟩ := r.course_runChain c s
  obtain ⟨v, hflat, hend⟩ := hcourse.matches hbegin 0
  have hpositions : (Chain.flat c.name steps).positions = line 0 (r.turnsOf c s) := by
    simp [Chain.positions, Chain.flat, line, steps, begun, Function.comp_def]
  have hcount : 0 + (r.turnsOf c s).length = steps.length := by simp [steps, begun]
  rw [← hpositions, hcount] at hflat
  simp only [tree, htree]
  cases x with
  | error e =>
    simp only [flat, runChain_of_error hflat]
    exact ⟨hend.sent, hend.observed, hend.context, hend.draws, hend.cancelled, rfl⟩
  | ok results =>
    simp only [flat, runChain_of_ok hflat]
    exact ⟨hend.sent, hend.observed, hend.context, hend.draws, hend.cancelled, rfl⟩

end Runner

end HttpChain
