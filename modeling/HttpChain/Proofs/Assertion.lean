import HttpChain.Assertion
import HttpChain.Proofs.Request.Resolution

/-!
# HttpChain.Proofs.Assertion

What a list of assertions comes to.  An assertion without dynamic tokens has one
verdict, whatever is drawn and wherever it stands, its number apart
(`evaluate_static`).  A list of them passes if each does by itself
(`check_of_passes`), and otherwise it ends with the verdict of the first one that
does not (`check_append`); what stands behind that one is not looked at
(`check_error_of_take`).
-/

namespace HttpChain.Assertion

/-- No dynamic token stands in either operand of an assertion. -/
structure Static (a : Assertion) : Prop where
  left : ∀ token i, ¬ DynamicToken.StandsAt token a.left.toList i
  right : ∀ token i, ¬ DynamicToken.StandsAt token a.right.toList i

/-- An assertion passes by itself, whatever its number is and whatever is drawn. -/
def Passes (ctx : Context) (a : Assertion) : Prop :=
  ∀ index draws, (a.evaluate index ctx draws).1.passed = true

/-- The verdict of an assertion that draws nothing. -/
def verdict (index : Nat) (ctx : Context) (a : Assertion) : Verdict :=
  let left := String.ofList (Placeholder.expandNames .plain ctx a.left.toList)
  let right := String.ofList (Placeholder.expandNames .plain ctx a.right.toList)
  ⟨index, a.comparison.compare left right, left, a.comparison, right⟩

variable {ctx : Context} {a : Assertion} {as : List Assertion}

/-! ## one assertion -/

/-- Without dynamic tokens an assertion draws nothing. -/
theorem evaluate_static (h : a.Static) (index : Nat) (ctx : Context) (draws : Draws) :
    a.evaluate index ctx draws = (a.verdict index ctx, draws) := by
  rw [evaluate, Drawing.bind_apply, Drawing.bind_apply, substitute_static h.left,
    substitute_static h.right]
  rfl

/-- Whether an assertion passes by itself does not depend on its number. -/
theorem passes_iff (h : a.Static) (index : Nat) :
    a.Passes ctx ↔ (a.verdict index ctx).passed = true := by
  constructor
  · intro hpasses
    have := hpasses index ⟨fun _ => 0, fun _ => 0, 0⟩
    rwa [evaluate_static h] at this
  · intro hpassed i draws
    rw [evaluate_static h]
    exact hpassed

/-! ## a list of them -/

/-- The verdicts of a list are those of its assertions, numbered from one. -/
theorem mapIdx_evaluate (h : ∀ a ∈ as, a.Static) (ctx : Context) (draws : Draws) :
    as.mapIdx (fun i a => (a.evaluate (i + 1) ctx draws).1) =
      as.mapIdx fun i a => a.verdict (i + 1) ctx := by
  rw [List.mapIdx_eq_mapIdx_iff]
  intro i hi
  rw [evaluate_static (h _ (List.getElem_mem hi))]

/-- Behind an assertion that passes the check goes on. -/
theorem checkFrom_cons_of_passes (h : a.Static) (hpasses : a.Passes ctx) (index : Nat)
    (as : List Assertion) (draws : Draws) :
    checkFrom index ctx (a :: as) draws =
      ((checkFrom (index + 1) ctx as draws).1.map (a.verdict index ctx :: ·),
        (checkFrom (index + 1) ctx as draws).2) := by
  have hpassed := (passes_iff h index).1 hpasses
  rw [checkFrom, Drawing.bind_apply, evaluate_static h, if_pos hpassed]
  rfl

/-- An assertion that fails ends the check with its own verdict. -/
theorem checkFrom_cons_of_not_passes (h : a.Static) (hfails : ¬ a.Passes ctx) (index : Nat)
    (as : List Assertion) (draws : Draws) :
    checkFrom index ctx (a :: as) draws = (.error (a.verdict index ctx), draws) := by
  have hfailed : (a.verdict index ctx).passed ≠ true := fun hpassed =>
    hfails ((passes_iff h index).2 hpassed)
  rw [checkFrom, Drawing.bind_apply, evaluate_static h, if_neg hfailed]
  rfl

/-- Where each assertion passes by itself, all have their verdicts, in order. -/
theorem checkFrom_of_passes (hstatic : ∀ a ∈ as, a.Static) (hpasses : ∀ a ∈ as, a.Passes ctx)
    (index : Nat) (draws : Draws) :
    checkFrom index ctx as draws =
      (.ok (as.mapIdx fun i a => a.verdict (index + i) ctx), draws) := by
  induction as generalizing index with
  | nil => rfl
  | cons a as ih =>
    rw [List.forall_mem_cons] at hstatic hpasses
    rw [checkFrom_cons_of_passes hstatic.1 hpasses.1, ih hstatic.2 hpasses.2, List.mapIdx_cons]
    simp only [Except.map, Nat.add_zero, Nat.add_assoc, Nat.add_comm 1]

/-- The first assertion that does not pass by itself decides, whatever stands behind it. -/
theorem checkFrom_append {before : List Assertion} (hstatic : ∀ b ∈ before, b.Static)
    (hpasses : ∀ b ∈ before, b.Passes ctx) (ha : a.Static) (hfails : ¬ a.Passes ctx)
    (after : List Assertion) (index : Nat) (draws : Draws) :
    checkFrom index ctx (before ++ a :: after) draws =
      (.error (a.verdict (index + before.length) ctx), draws) := by
  induction before generalizing index with
  | nil => exact checkFrom_cons_of_not_passes ha hfails index after draws
  | cons b before ih =>
    rw [List.forall_mem_cons] at hstatic hpasses
    rw [List.cons_append, checkFrom_cons_of_passes hstatic.1 hpasses.1, ih hstatic.2 hpasses.2]
    simp only [Except.map, List.length_cons, Nat.add_assoc, Nat.add_comm 1]

/-- Where not all assertions pass by themselves, there is a first one that does not. -/
theorem exists_first_failure (h : ¬ ∀ a ∈ as, a.Passes ctx) :
    ∃ before a after, as = before ++ a :: after ∧ (∀ b ∈ before, b.Passes ctx) ∧
      ¬ a.Passes ctx := by
  induction as with
  | nil => exact absurd (List.forall_mem_nil _) h
  | cons a as ih =>
    by_cases ha : a.Passes ctx
    · have hrest : ¬ ∀ b ∈ as, b.Passes ctx := fun hall => h (List.forall_mem_cons.2 ⟨ha, hall⟩)
      obtain ⟨before, b, after, rfl, hbefore, hb⟩ := ih hrest
      exact ⟨a :: before, b, after, rfl, List.forall_mem_cons.2 ⟨ha, hbefore⟩, hb⟩
    · exact ⟨[], a, as, rfl, List.forall_mem_nil _, ha⟩

/-- A list of assertions that pass has the verdict of each. -/
theorem check_of_passes (hstatic : ∀ a ∈ as, a.Static) (hpasses : ∀ a ∈ as, a.Passes ctx)
    (draws : Draws) :
    check as ctx draws = (.ok (as.mapIdx fun i a => a.verdict (i + 1) ctx), draws) := by
  rw [check, checkFrom_of_passes hstatic hpasses]
  simp only [Nat.add_comm 1]

/-- The first assertion that fails decides, whatever stands behind it. -/
theorem check_append {before after : List Assertion}
    (hstatic : ∀ b ∈ before ++ a :: after, b.Static) (hpasses : ∀ b ∈ before, b.Passes ctx)
    (hfails : ¬ a.Passes ctx) (draws : Draws) :
    check (before ++ a :: after) ctx draws =
      (.error (a.verdict (before.length + 1) ctx), draws) := by
  rw [List.forall_mem_append, List.forall_mem_cons] at hstatic
  rw [check, checkFrom_append hstatic.1 hpasses hstatic.2.1 hfails, Nat.add_comm]

variable {draws later : Draws}

/-- A list passes exactly if each of its assertions does. -/
theorem check_eq_ok_iff (hstatic : ∀ a ∈ as, a.Static) {vs : List Verdict} :
    check as ctx draws = (.ok vs, later) ↔
      (∀ a ∈ as, a.Passes ctx) ∧ vs = as.mapIdx (fun i a => a.verdict (i + 1) ctx) ∧
        later = draws := by
  constructor
  · intro h
    by_cases hpasses : ∀ a ∈ as, a.Passes ctx
    · rw [check_of_passes hstatic hpasses] at h
      cases h
      exact ⟨hpasses, rfl, rfl⟩
    · obtain ⟨before, a, after, rfl, hbefore, ha⟩ := exists_first_failure hpasses
      rw [check_append hstatic hbefore ha] at h
      cases h
  · rintro ⟨hpasses, rfl, rfl⟩
    exact check_of_passes hstatic hpasses _

/-- A list fails exactly at the first assertion that does not pass by itself. -/
theorem check_eq_error_iff (hstatic : ∀ a ∈ as, a.Static) {v : Verdict} :
    check as ctx draws = (.error v, later) ↔
      ∃ before a after, as = before ++ a :: after ∧ (∀ b ∈ before, b.Passes ctx) ∧
        ¬ a.Passes ctx ∧ v = a.verdict (before.length + 1) ctx ∧ later = draws := by
  constructor
  · intro h
    by_cases hpasses : ∀ a ∈ as, a.Passes ctx
    · rw [check_of_passes hstatic hpasses] at h
      cases h
    · obtain ⟨before, a, after, rfl, hbefore, ha⟩ := exists_first_failure hpasses
      rw [check_append hstatic hbefore ha] at h
      cases h
      exact ⟨before, a, after, rfl, hbefore, ha, rfl, rfl⟩
  · rintro ⟨before, a, after, rfl, hbefore, ha, rfl, rfl⟩
    exact check_append hstatic hbefore ha _

/-- A list that begins alike up to the first failure fails alike. -/
theorem check_error_of_take (hstatic : ∀ a ∈ as, a.Static) {v : Verdict}
    (h : check as ctx draws = (.error v, later)) {others : List Assertion}
    (hothers : others.take v.index = as.take v.index) :
    check others ctx draws = (.error v, later) := by
  obtain ⟨before, a, after, rfl, hbefore, ha, rfl, rfl⟩ := (check_eq_error_iff hstatic).1 h
  rw [List.forall_mem_append, List.forall_mem_cons] at hstatic
  have hfront : others.take (before.length + 1) = before ++ [a] := by
    refine hothers.trans ?_
    change (before ++ a :: after).take (before.length + 1) = _
    rw [List.append_cons, List.take_left' (by simp)]
  have hsplit : others = before ++ a :: others.drop (before.length + 1) := by
    rw [List.append_cons, ← hfront, List.take_append_drop]
  rw [hsplit, check, checkFrom_append hstatic.1 hbefore hstatic.2.1 ha, Nat.add_comm]

end HttpChain.Assertion
