import HttpChain.Proofs.Run.Agenda

/-!
# HttpChain.Proofs.Run.Walk

The walk of a tree.  Steps and the statuses of their responses give an order
in which to come to them: a step, then the steps of the branch that its status
leads to, one level further down, then the step behind it.  A walk can be read
off an agenda (`walk_cons`).  It stays in the tree (`of_mem_walk`), comes to no
step twice (`nodup_walk`) and is no longer than the tree (`length_walk_le`).
-/

namespace HttpChain

namespace Step

/-- The step at a place below steps, if there is one. -/
def at? : List Step → List (Nat × Nat) → Nat → Option Step
  | steps, [], index => steps[index]?
  | steps, (i, status) :: path, index =>
    (steps[i]?.bind (·.branchFor status)).bind fun below => at? below path index

theorem at?_append (steps : List Step) (path : List (Nat × Nat)) (i status index : Nat) :
    at? steps (path ++ [(i, status)]) index =
      ((at? steps path i).bind (·.branchFor status)).bind fun below => below[index]? := by
  induction path generalizing steps with
  | nil => simp only [List.nil_append, at?]
  | cons step path ih => simp only [List.cons_append, at?, ih, Option.bind_assoc]

end Step

namespace Position

/-! ## the walk -/

/-- The walk of steps, in which the response at each place, counted from zero,
has the given status. -/
def walk : List Position → (Nat → Nat) → List Position
  | [], _ => []
  | p :: ps, status =>
    let below := walk (p.below (status 0)) fun k => status (k + 1)
    p :: below ++ walk ps fun k => status (below.length + 1 + k)
termination_by ps => weight ps
decreasing_by
  all_goals
    have h := weight_below_append_lt p ps (status 0)
    rw [weight_append] at h
    omega

@[simp] theorem walk_nil (status : Nat → Nat) : walk [] status = [] := by
  rw [walk]

theorem walk_append (ps qs : List Position) (status : Nat → Nat) :
    walk (ps ++ qs) status =
      walk ps status ++ walk qs fun k => status ((walk ps status).length + k) := by
  induction ps generalizing status with
  | nil => simp
  | cons p ps ih =>
    have hassoc : ∀ a b k : Nat, a + 1 + (b + k) = a + b + 1 + k := by omega
    rw [List.cons_append, walk, walk, ih]
    simp [hassoc]

/-- The walk of an agenda goes on as that of the steps below the first place
and the others behind them. -/
theorem walk_cons (p : Position) (ps : List Position) (status : Nat → Nat) :
    walk (p :: ps) status = p :: walk (p.below (status 0) ++ ps) fun k => status (k + 1) := by
  have hassoc : ∀ a k : Nat, a + 1 + k = a + k + 1 := by omega
  rw [walk, walk_append]
  simp [hassoc]

/-- A walk has at most as many places as there are steps. -/
theorem length_walk_le (ps : List Position) (status : Nat → Nat) :
    (walk ps status).length ≤ weight ps := by
  induction ps using Position.induction generalizing status with
  | nil => simp
  | cons p ps ih =>
    rw [walk_cons, List.length_cons]
    have h := ih (status 0) fun k => status (k + 1)
    have hlt := weight_below_append_lt p ps (status 0)
    omega

/-! ## the places of a walk -/

/-- The step at a place is the one that is found there. -/
def Of (steps : List Step) (p : Position) : Prop := Step.at? steps p.path p.index = some p.step

theorem mem_ofSteps {path : List (Nat × Nat)} {index : Nat} {steps : List Step} {q : Position}
    (h : q ∈ ofSteps path index steps) :
    q.path = path ∧ index ≤ q.index ∧ steps[q.index - index]? = some q.step := by
  induction steps generalizing index with
  | nil => simp [ofSteps] at h
  | cons s steps ih =>
    rw [ofSteps, List.mem_cons] at h
    cases h with
    | inl h =>
      subst h
      simp
    | inr h =>
      obtain ⟨hpath, hindex, hstep⟩ := ih h
      have hsub : q.index - index = q.index - (index + 1) + 1 := by omega
      refine ⟨hpath, by omega, ?_⟩
      rw [hsub, List.getElem?_cons_succ, hstep]

theorem of_mem_below {steps : List Step} {p q : Position} {status : Nat} (hp : p.Of steps)
    (h : q ∈ p.below status) : q.Of steps := by
  obtain ⟨hpath, -, hstep⟩ := mem_ofSteps h
  rw [Of, hpath, Step.at?_append, hp, Option.bind_some]
  cases hb : p.step.branchFor status with
  | none => simp [hb] at hstep
  | some below => simpa [hb] using hstep

theorem of_mem_positions {c : Chain} : ∀ p ∈ c.positions, p.Of c.steps := by
  intro p hp
  obtain ⟨hpath, -, hstep⟩ := mem_ofSteps hp
  rw [Of, hpath, Step.at?, ← hstep, Nat.sub_zero]

/-- A walk of steps of a tree stays in the tree. -/
theorem of_mem_walk {steps : List Step} {ps : List Position} {status : Nat → Nat}
    (hps : ∀ p ∈ ps, p.Of steps) : ∀ p ∈ walk ps status, p.Of steps := by
  induction ps using Position.induction generalizing status with
  | nil => simp
  | cons p ps ih =>
    obtain ⟨hp, hps⟩ := List.forall_mem_cons.1 hps
    rw [walk_cons]
    refine List.forall_mem_cons.2 ⟨hp, ih _ fun q hq => ?_⟩
    cases List.mem_append.1 hq with
    | inl hq => exact of_mem_below hp hq
    | inr hq => exact hps q hq

/-! ## no step twice -/

/-- The place of each step above a step among its siblings, from the top, and
its own. -/
def key (p : Position) : List Nat := p.path.map Prod.fst ++ [p.index]

/-- Two steps, neither of which is the other or above it. -/
def Apart (p q : Position) : Prop := ¬ p.key <+: q.key ∧ ¬ q.key <+: p.key

/-- Siblings are apart. -/
theorem pairwise_ofSteps (path : List (Nat × Nat)) (index : Nat) (steps : List Step) :
    (ofSteps path index steps).Pairwise Apart := by
  induction steps generalizing index with
  | nil => exact .nil
  | cons s steps ih =>
    refine .cons (fun q hq => ?_) (ih (index + 1))
    obtain ⟨hpath, hindex, -⟩ := mem_ofSteps hq
    have hne : index ≠ q.index := by omega
    simp [Apart, key, hpath, hne, hne.symm]

theorem key_of_mem_below {p q : Position} {status : Nat} (h : q ∈ p.below status) :
    q.key = p.key ++ [q.index] := by
  obtain ⟨hpath, -, -⟩ := mem_ofSteps h
  simp [key, hpath]

/-- What is below a step is apart from all that the step is apart from. -/
theorem Apart.below {p q p' : Position} {status : Nat} (h : p.Apart q) (hp' : p' ∈ p.below status) :
    p'.Apart q := by
  have habove : p.key <+: p'.key := ⟨_, (key_of_mem_below hp').symm⟩
  refine ⟨fun hq => h.1 (habove.trans hq), fun hq => ?_⟩
  exact (List.prefix_or_prefix_of_prefix habove hq).elim h.1 h.2

theorem pairwise_below_append {p : Position} {ps : List Position} (h : (p :: ps).Pairwise Apart)
    (status : Nat) : (p.below status ++ ps).Pairwise Apart := by
  obtain ⟨hp, hps⟩ := List.pairwise_cons.1 h
  exact List.pairwise_append.2 ⟨pairwise_ofSteps _ _ _, hps, fun q hq q' hq' => (hp q' hq').below hq⟩

/-- A walk comes only to steps that it is given and to steps below them. -/
theorem exists_prefix_of_mem_walk {ps : List Position} {status : Nat → Nat} {q : Position}
    (h : q ∈ walk ps status) : ∃ p ∈ ps, p.key <+: q.key := by
  induction ps using Position.induction generalizing status with
  | nil => simp at h
  | cons p ps ih =>
    rw [walk_cons, List.mem_cons] at h
    cases h with
    | inl h => exact ⟨p, by simp, h ▸ List.prefix_rfl⟩
    | inr h =>
      obtain ⟨p', hp', habove⟩ := ih _ h
      cases List.mem_append.1 hp' with
      | inl hp' =>
        rw [key_of_mem_below hp'] at habove
        exact ⟨p, by simp, (List.prefix_append _ _).trans habove⟩
      | inr hp' => exact ⟨p', by simp [hp'], habove⟩

/-- A walk comes to no step twice. -/
theorem nodup_walk {ps : List Position} (h : ps.Pairwise Apart) (status : Nat → Nat) :
    ((walk ps status).map key).Nodup := by
  induction ps using Position.induction generalizing status with
  | nil => simp
  | cons p ps ih =>
    rw [walk_cons, List.map_cons, List.nodup_cons]
    refine ⟨fun hmem => ?_, ih _ (pairwise_below_append h _) _⟩
    obtain ⟨q, hq, hkey⟩ := List.mem_map.1 hmem
    obtain ⟨p', hp', habove⟩ := exists_prefix_of_mem_walk hq
    rw [hkey] at habove
    cases List.mem_append.1 hp' with
    | inl hp' =>
      rw [key_of_mem_below hp'] at habove
      have hlength := habove.length_le
      rw [List.length_append, List.length_singleton] at hlength
      omega
    | inr hp' => exact ((List.pairwise_cons.1 h).1 p' hp').2 habove

end Position

end HttpChain
