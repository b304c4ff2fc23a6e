import HttpChain.Run.Chain

/-!
# HttpChain.Proofs.Run.Agenda

A run as a list of turns.  `Runner.runSteps` follows the tree of a chain and
comes back from each branch to the steps behind it.  Here the same run is read
off an agenda: the places of the steps still to come, in order.  The first of
them takes its turn, and the steps of the branch that its status leads to go in
front of the others.

The main statements: an agenda runs as the tree does (`runSteps_eq_runPositions`),
and one place after the other (`runPositions_cons_ok`); `turns` lists the steps that
begin, each with the state it begins in.
-/

namespace HttpChain

/-! ## places -/

/-- A step of a chain and where it stands: the steps above it, from the top,
each by its place among its siblings and the status of its response, and its
own place. -/
structure Position where
  path : List (Nat × Nat)
  index : Nat
  step : Step

namespace Position

/-- How many steps stand above a step. -/
def depth (p : Position) : Nat := p.path.length

/-- The name of the request of a step. -/
def name (p : Position) : String := Text.strip p.step.action.request

/-- The steps of a list, the first of which has the given place. -/
def ofSteps (path : List (Nat × Nat)) : Nat → List Step → List Position
  | _, [] => []
  | index, step :: steps => ⟨path, index, step⟩ :: ofSteps path (index + 1) steps

/-- The steps of the branch that a status leads to, if there is one. -/
def below (p : Position) (status : Nat) : List Position :=
  ofSteps (p.path ++ [(p.index, status)]) 0 ((p.step.branchFor status).getD [])

/-- The number of steps at places and below them. -/
def weight (ps : List Position) : Nat := Step.listCount (ps.map step)

theorem map_step_ofSteps (path : List (Nat × Nat)) (index : Nat) (steps : List Step) :
    (ofSteps path index steps).map step = steps := by
  induction steps generalizing index with
  | nil => rfl
  | cons s steps ih => rw [ofSteps, List.map_cons, ih]

theorem weight_cons (p : Position) (ps : List Position) : weight (p :: ps) = p.step.count + weight ps :=
  rfl

theorem weight_append (ps qs : List Position) : weight (ps ++ qs) = weight ps + weight qs := by
  rw [weight, List.map_append, Step.listCount_append, weight, weight]

theorem weight_ofSteps (path : List (Nat × Nat)) (index : Nat) (steps : List Step) :
    weight (ofSteps path index steps) = Step.listCount steps := by
  rw [weight, map_step_ofSteps]

/-- A turn makes the agenda lighter, wherever it leads. -/
theorem weight_below_append_lt (p : Position) (ps : List Position) (status : Nat) :
    weight (p.below status ++ ps) < weight (p :: ps) := by
  have h : weight (p.below status) < p.step.count := by
    rw [below, weight_ofSteps]
    exact p.step.listCount_branchFor_lt status
  rw [weight_append, weight_cons]
  omega

/-- Induction along an agenda: after the first place come the steps below it,
for some status, and then the others. -/
@[elab_as_elim]
theorem induction {motive : List Position → Prop} (nil : motive [])
    (cons : ∀ p ps, (∀ status, motive (p.below status ++ ps)) → motive (p :: ps)) :
    (ps : List Position) → motive ps
  | [] => nil
  | p :: ps => cons p ps fun status => induction nil cons (p.below status ++ ps)
termination_by ps => weight ps
decreasing_by exact weight_below_append_lt p ps status

end Position

/-- The places of the steps at the top of a chain. -/
def Chain.positions (c : Chain) : List Position := Position.ofSteps [] 0 c.steps

/-! ## outcomes -/

/-- What a part of a run comes to, and the state that it leaves. -/
abbrev Outcome (α : Type) := Except Error α × RunState

/-- Go on after a part of a run, unless it ended with an error. -/
def proceed {α β : Type} (x : Outcome α) (next : α → RunState → Outcome β) : Outcome β :=
  match x with
  | (.error e, s) => (.error e, s)
  | (.ok a, s) => next a s

@[simp] theorem proceed_error {α β : Type} (e : Error) (s : RunState)
    (next : α → RunState → Outcome β) : proceed (.error e, s) next = (.error e, s) := rfl

@[simp] theorem proceed_ok {α β : Type} (a : α) (s : RunState)
    (next : α → RunState → Outcome β) : proceed (.ok a, s) next = next a s := rfl

@[simp] theorem proceed_pure {α : Type} (x : Outcome α) :
    (proceed x fun a s => (.ok a, s)) = x := by
  obtain ⟨e | a, s⟩ := x <;> rfl

/-- What is still to come changes nothing about an error. -/
theorem fst_proceed_of_error {α β : Type} {x : Outcome α} {e : Error} (h : x.1 = .error e)
    (next : α → RunState → Outcome β) : (proceed x next).1 = .error e := by
  obtain ⟨y, s⟩ := x
  cases h
  rfl

theorem proceed_map {α β : Type} (x : Outcome α) (f : α → β) :
    (proceed x fun a s => (.ok (f a), s)) = (x.1.map f, x.2) := by
  obtain ⟨e | a, s⟩ := x <;> rfl

theorem proceed_assoc {α β γ : Type} (x : Outcome α) (f : α → RunState → Outcome β)
    (g : β → RunState → Outcome γ) :
    proceed (proceed x f) g = proceed x fun a s => proceed (f a s) g := by
  obtain ⟨e | a, s⟩ := x <;> rfl

/-! ## turns -/

/-- A step that begins, and the state in which it does. -/
structure Turn where
  position : Position
  state : RunState

namespace Runner

/-- What there is to say when a step leads into a branch. -/
def branchEvent (result : StepResult) : Log.Event :=
  event .debug
    ("Status " ++ toString result.status ++ " matched branch of '" ++ result.request ++ "'")

/-- What there is to say behind a step. -/
def branchEvents (p : Position) (result : StepResult) : List Log.Event :=
  if (p.step.branchFor result.status).isSome then [branchEvent result] else []

/-- The turn of a step: it runs without its branches. -/
@[irreducible] def takeTurn (r : Runner) (p : Position) (s : RunState) : Outcome StepResult :=
  proceed (r.perform p.depth (p.index + 1) p.step.action (hasBranch p.step.branches) s)
    fun result s => (.ok result, s.say (branchEvents p result))

/-- The turns of an agenda, up to the first one that ends with an error. -/
def turns (r : Runner) : List Position → RunState → List Turn
  | [], _ => []
  | p :: ps, s =>
    ⟨p, s⟩ :: match r.takeTurn p s with
      | (.error _, _) => []
      | (.ok result, s) => r.turns (p.below result.status ++ ps) s
termination_by ps => Position.weight ps
decreasing_by exact Position.weight_below_append_lt p ps result.status

/-- Run the steps of an agenda, each with its branches. -/
def runPositions (r : Runner) : List Position → RunState → Outcome (List StepResult)
  | [], s => (.ok [], s)
  | p :: ps, s =>
    proceed (r.runStep p.depth (p.index + 1) p.step s) fun results s =>
      proceed (r.runPositions ps s) fun more s => (.ok (results ++ more), s)

/-! ## the tree as an agenda -/

theorem runSteps_cons (r : Runner) (depth index : Nat) (step : Step) (steps : List Step)
    (s : RunState) :
    r.runSteps depth index (step :: steps) s =
      proceed (r.runStep depth index step s) fun results s =>
        proceed (r.runSteps depth (index + 1) steps s) fun more s => (.ok (results ++ more), s) := by
  rw [runSteps]
  rcases r.runStep depth index step s with ⟨e | results, s₁⟩
  · rfl
  · simp only [proceed]
    rcases r.runSteps depth (index + 1) steps s₁ with ⟨e | more, s₂⟩ <;> rfl

/-- Running the steps of a list is running the agenda of their places. -/
theorem runSteps_eq_runPositions (r : Runner) (path : List (Nat × Nat)) (index : Nat)
    (steps : List Step) (s : RunState) :
    r.runSteps path.length (index + 1) steps s =
      r.runPositions (Position.ofSteps path index steps) s := by
  induction steps generalizing index s with
  | nil => rw [runSteps, Position.ofSteps, runPositions]
  | cons step steps ih =>
    rw [runSteps_cons, Position.ofSteps, runPositions]
    simp only [Position.depth, ih]

/-- Two agendas, one behind the other. -/
theorem runPositions_append (r : Runner) (ps qs : List Position) (s : RunState) :
    r.runPositions (ps ++ qs) s =
      proceed (r.runPositions ps s) fun results s =>
        proceed (r.runPositions qs s) fun more s => (.ok (results ++ more), s) := by
  induction ps generalizing s with
  | nil => simp [runPositions]
  | cons p ps ih => simp [runPositions, ih, proceed_assoc]

/-- The branch of a status is the first one that has it. -/
theorem runBranch_eq (r : Runner) (depth : Nat) (result : StepResult)
    (branches : List (Nat × List Step)) (s : RunState) :
    r.runBranch depth result branches s =
      (branches.find? fun b => b.1 = result.status).elim (.ok [], s)
        fun b => r.runSteps (depth + 1) 1 b.2 (s.say [branchEvent result]) := by
  induction branches with
  | nil => rw [runBranch, List.find?_nil, Option.elim_none]
  | cons b branches ih =>
    obtain ⟨code, steps⟩ := b
    rw [runBranch, List.find?_cons]
    by_cases h : code = result.status
    · simp [h, branchEvent]
    · simp [h, ih]

/-- A branch is run as the places below its step. -/
theorem runBranch_eq_runPositions (r : Runner) (p : Position) (result : StepResult) (s : RunState) :
    r.runBranch p.depth result p.step.branches s =
      r.runPositions (p.below result.status) (s.say (branchEvents p result)) := by
  rw [runBranch_eq, Position.below, branchEvents, Step.branchFor]
  cases p.step.branches.find? fun b => b.1 = result.status with
  | none => simp [Position.ofSteps, runPositions, RunState.say]
  | some b =>
    have h := r.runSteps_eq_runPositions (p.path ++ [(p.index, result.status)]) 0 b.2
    rw [List.length_append, List.length_singleton, Nat.zero_add] at h
    simp only [h, Position.depth, Option.elim_some, Option.map_some, Option.getD_some,
      Option.isSome_some, if_true]

/-- A step with its branches is its turn, and then the places below it. -/
theorem runStep_eq_takeTurn (r : Runner) (p : Position) (s : RunState) :
    r.runStep p.depth (p.index + 1) p.step s =
      proceed (r.takeTurn p s) fun result s =>
        proceed (r.runPositions (p.below result.status) s) fun results s =>
          (.ok (result :: results), s) := by
  obtain ⟨path, index, ⟨a, branches⟩⟩ := p
  have hbranch := r.runBranch_eq_runPositions ⟨path, index, .mk a branches⟩
  simp only [Step.branches] at hbranch
  rw [runStep, takeTurn]
  simp only [Step.action, Step.branches]
  rcases r.perform _ (index + 1) a (hasBranch branches) s with ⟨e | result, s₁⟩
  · rfl
  · simp only [proceed_ok, hbranch]
    rcases r.runPositions _ _ with ⟨e | results, s₂⟩ <;> rfl

/-! ## one turn after the other -/

@[simp] theorem runPositions_nil (r : Runner) (s : RunState) : r.runPositions [] s = (.ok [], s) := rfl

@[simp] theorem turns_nil (r : Runner) (s : RunState) : r.turns [] s = [] := by
  rw [turns]

variable {r : Runner} {p : Position} {ps : List Position} {s t : RunState}

/-- A turn passes if the step itself does; a branch that comes next is all there is to say. -/
theorem takeTurn_eq_ok_iff {result : StepResult} :
    r.takeTurn p s = (.ok result, t) ↔
      ∃ u, r.perform p.depth (p.index + 1) p.step.action (hasBranch p.step.branches) s =
        (.ok result, u) ∧ u.say (branchEvents p result) = t := by
  rw [takeTurn]
  rcases r.perform _ _ _ _ s with ⟨e | result', u⟩
  · simp
  · simp only [proceed_ok, Prod.mk.injEq, Except.ok.injEq]
    constructor
    · rintro ⟨rfl, h⟩
      exact ⟨u, ⟨rfl, rfl⟩, h⟩
    · rintro ⟨_, ⟨rfl, rfl⟩, h⟩
      exact ⟨rfl, h⟩

/-- An error in a turn is that of its step. -/
theorem runStep_of_takeTurn_error {e : Error} (h : r.takeTurn p s = (.error e, t)) :
    r.runStep p.depth (p.index + 1) p.step s = (.error e, t) := by
  rw [runStep_eq_takeTurn, h, proceed_error]

/-- An error in a turn ends the whole agenda. -/
theorem runPositions_cons_error {e : Error} (h : r.takeTurn p s = (.error e, t)) :
    r.runPositions (p :: ps) s = (.error e, t) := by
  rw [runPositions, runStep_of_takeTurn_error h, proceed_error]

/-- After a turn that passed, the steps below its place run before the others. -/
theorem runPositions_cons_ok {result : StepResult} (h : r.takeTurn p s = (.ok result, t)) :
    r.runPositions (p :: ps) s =
      proceed (r.runPositions (p.below result.status ++ ps) t) fun results s =>
        (.ok (result :: results), s) := by
  rw [runPositions, runStep_eq_takeTurn, h, runPositions_append]
  simp [proceed_assoc]

theorem turns_cons_error {e : Error} (h : r.takeTurn p s = (.error e, t)) :
    r.turns (p :: ps) s = [⟨p, s⟩] := by
  rw [turns, h]

theorem turns_cons_ok {result : StepResult} (h : r.takeTurn p s = (.ok result, t)) :
    r.turns (p :: ps) s = ⟨p, s⟩ :: r.turns (p.below result.status ++ ps) t := by
  rw [turns, h]

/-! ## the course of a run -/

/-- How an agenda is worked off: its turns, what they come to, and the states
before and after. -/
inductive Course (r : Runner) : List Position → RunState → List Turn →
    Except Error (List StepResult) → RunState → Prop
  | done {s : RunState} : Course r [] s [] (.ok []) s
  | stop {p : Position} {ps : List Position} {s t : RunState} {e : Error}
      (h : r.takeTurn p s = (.error e, t)) : Course r (p :: ps) s [⟨p, s⟩] (.error e) t
  | step {p : Position} {ps : List Position} {s t u : RunState} {result : StepResult}
      {ts : List Turn} {x : Except Error (List StepResult)}
      (h : r.takeTurn p s = (.ok result, t))
      (rest : Course r (p.below result.status ++ ps) t ts x u) :
      Course r (p :: ps) s (⟨p, s⟩ :: ts) (x.map (result :: ·)) u

/-- Every agenda takes its course. -/
theorem course (r : Runner) (ps : List Position) (s : RunState) :
    Course r ps s (r.turns ps s) (r.runPositions ps s).1 (r.runPositions ps s).2 := by
  induction ps using Position.induction generalizing s with
  | nil =>
    rw [turns_nil]
    exact .done
  | cons p ps ih =>
    rcases h : r.takeTurn p s with ⟨e | result, t⟩
    · rw [turns_cons_error h, runPositions_cons_error h]
      exact .stop h
    · rw [turns_cons_ok h, runPositions_cons_ok h]
      have hrest := ih result.status t
      rcases hr : r.runPositions (p.below result.status ++ ps) t with ⟨e | results, u⟩ <;>
        rw [hr] at hrest <;> exact .step h hrest

/-! ## chains -/

variable {c : Chain}

/-- The state in which the first step of a chain begins. -/
def opened (c : Chain) (s : RunState) : RunState :=
  s.say [event .info ("Running chain '" ++ c.name ++ "'")]

/-- The turns of the steps of a chain that begin, in order. -/
def turnsOf (r : Runner) (c : Chain) (s : RunState) : List Turn := r.turns c.positions (opened c s)

/-- The places of the steps of a chain that begin, in order. -/
def begun (r : Runner) (c : Chain) (s : RunState) : List Position :=
  (r.turnsOf c s).map Turn.position

theorem runChain_of_error {e : Error} (h : r.runPositions c.positions (opened c s) = (.error e, t)) :
    r.runChain c s = (.error (.chainFailed c.name e), t) := by
  have hs := r.runSteps_eq_runPositions [] 0 c.steps (opened c s)
  rw [List.length_nil, Nat.zero_add] at hs
  simp only [runChain, opened, Chain.positions] at hs h ⊢
  rw [hs, h]

theorem runChain_of_ok {results : List StepResult}
    (h : r.runPositions c.positions (opened c s) = (.ok results, t)) :
    r.runChain c s =
      (.ok ⟨c.name, results⟩, t.say [event .info ("Chain '" ++ c.name ++ "' finished: " ++
        toString results.length ++ " requests")]) := by
  have hs := r.runSteps_eq_runPositions [] 0 c.steps (opened c s)
  rw [List.length_nil, Nat.zero_add] at hs
  simp only [runChain, opened, Chain.positions] at hs h ⊢
  rw [hs, h]
  rfl

/-- A chain comes to what its agenda comes to, named for the chain. -/
theorem fst_runChain (r : Runner) (c : Chain) (s : RunState) :
    (r.runChain c s).1 = match (r.runPositions c.positions (opened c s)).1 with
      | .error e => .error (.chainFailed c.name e)
      | .ok results => .ok ⟨c.name, results⟩ := by
  rcases h : r.runPositions c.positions (opened c s) with ⟨e | results, u⟩
  · rw [runChain_of_error h]
  · rw [runChain_of_ok h]

/-- A chain leaves what its agenda leaves, up to its last words. -/
theorem snd_runChain (r : Runner) (c : Chain) (s : RunState) :
    ∃ log, (r.runChain c s).2 = { (r.runPositions c.positions (opened c s)).2 with log } := by
  rcases h : r.runPositions c.positions (opened c s) with ⟨e | results, u⟩
  · exact ⟨u.log, by rw [runChain_of_error h]⟩
  · exact ⟨_, by rw [runChain_of_ok h]; rfl⟩

/-- The course of a chain, from its first step to its outcome. -/
theorem course_runChain (r : Runner) (c : Chain) (s : RunState) :
    ∃ x u, Course r c.positions (opened c s) (r.turnsOf c s) x u ∧
      r.runChain c s =
        match x with
        | .error e => (.error (.chainFailed c.name e), u)
        | .ok results => (.ok ⟨c.name, results⟩, u.say [event .info ("Chain '" ++ c.name ++
            "' finished: " ++ toString results.length ++ " requests")]) := by
  refine ⟨_, _, r.course c.positions (opened c s), ?_⟩
  rcases h : r.runPositions c.positions (opened c s) with ⟨e | results, u⟩
  · exact runChain_of_error h
  · exact runChain_of_ok h

/-- What a run of a chain leaves is what its course has left: its last words
are all that comes after. -/
theorem records_runChain (r : Runner) (c : Chain) (s : RunState) :
    ∃ x u, Course r c.positions (opened c s) (r.turnsOf c s) x u ∧
      (r.runChain c s).1 =
        (match x with
        | .error e => .error (.chainFailed c.name e)
        | .ok results => .ok ⟨c.name, results⟩) ∧
      (r.runChain c s).2.context = u.context ∧ (r.runChain c s).2.sent = u.sent ∧
      (r.runChain c s).2.observed = u.observed := by
  obtain ⟨x, u, hcourse, hrun⟩ := r.course_runChain c s
  refine ⟨x, u, hcourse, ?_⟩
  rw [hrun]
  cases x <;> exact ⟨rfl, rfl, rfl, rfl⟩

end Runner

end HttpChain
