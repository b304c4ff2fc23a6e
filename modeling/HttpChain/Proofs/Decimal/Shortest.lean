import HttpChain.Decimal.Shortest
import Mathlib.Tactic.Common

/-!
# HttpChain.Proofs.Decimal.Shortest

The shortest decimal of a number is in lowest terms: its significand does not end in a
zero, and a significand of zero has no exponent (`reduced_shortest`).
-/

namespace HttpChain.Decimal

namespace Scientific

/-- No factor of ten is left in the significand, and zero has one form. -/
structure Reduced (s : Scientific) : Prop where
  last : s.significand ≠ 0 → s.significand % 10 ≠ 0
  zero : s.significand = 0 → s.exponent = 0

/-- What is left of a significand that fits the fuel does not end in a zero. -/
theorem last_go {fuel : Nat} {s : Scientific} (h : s.significand < Nat.pow 2 (fuel + 1))
    (hpos : s.significand ≠ 0) :
    (normalize.go fuel s).significand ≠ 0 ∧ (normalize.go fuel s).significand % 10 ≠ 0 := by
  induction fuel generalizing s with
  | zero =>
    have hone : s.significand < 2 := h
    rw [normalize.go]
    constructor <;> omega
  | succ fuel ih =>
    rw [normalize.go]
    split
    · next hten =>
      refine ih ?_ ?_
      · have hstep : s.significand < Nat.pow 2 (fuel + 1) * 2 := h
        show s.significand / 10 < Nat.pow 2 (fuel + 1)
        omega
      · show s.significand / 10 ≠ 0
        omega
    · next hten => exact ⟨hpos, fun hzero => hten ⟨hpos, hzero⟩⟩

theorem go_zero (fuel : Nat) (e : Int) : normalize.go fuel ⟨0, e⟩ = ⟨0, e⟩ := by
  cases fuel <;> rfl

theorem reduced_normalize {s : Scientific} (h : s.significand = 0 → s.exponent = 0) :
    s.normalize.Reduced := by
  by_cases hzero : s.significand = 0
  · obtain ⟨m, e⟩ := s
    obtain rfl : m = 0 := hzero
    rw [normalize, go_zero]
    exact ⟨fun hne => absurd rfl hne, h⟩
  · have hgo := last_go (Nat.lt_log2_self) hzero
    exact ⟨fun _ => hgo.2, fun h => absurd h hgo.1⟩

end Scientific

/-! ## candidates -/

/-- A positive pattern is at least one step of its binade away from zero. -/
theorem unit_le_unitsOf {pattern : Nat} (h : 0 < pattern) :
    Nat.pow 2 (pattern / Binary64.binade - 1) ≤ Binary64.unitsOf pattern := by
  unfold Binary64.unitsOf
  dsimp only
  split
  · next hexponent =>
    have hsplit := Nat.div_add_mod pattern Binary64.binade
    rw [hexponent] at hsplit ⊢
    show 1 ≤ pattern % Binary64.binade
    omega
  · exact Nat.le_mul_of_pos_left _ (Nat.lt_of_lt_of_le (by decide) (Nat.le_add_right _ _))

/-- Zero does not round to a positive number. -/
theorem low_around_pos {pattern : Nat} (h : 0 < pattern) : 0 < (Interval.around pattern).low := by
  have hunit := unit_le_unitsOf h
  have hpos : 0 < Nat.pow 2 (pattern / Binary64.binade - 1) := Nat.pow_pos (by decide)
  unfold Interval.around
  dsimp only
  split <;> omega

theorem not_holds_zero {i : Interval} (hlow : 0 < i.low) {den : Nat} (hden : 0 < den) :
    i.holds 0 den = false := by
  have hpos : 0 < i.low * den := Nat.mul_pos hlow hden
  unfold Interval.holds
  split
  · simp only [Bool.and_eq_false_imp, decide_eq_true_eq]
    omega
  · simp only [Bool.and_eq_false_imp, decide_eq_true_eq]
    omega

/-- A grid has two candidates, the multiples below and above a value. -/
theorem onGrid?_eq (tie : Tie) (value : Nat) (i : Interval) (e : Int) :
    ∃ d num den take, 0 < den ∧ onGrid? tie value i e =
      if (i.holds (d * num) den && take) = true then some ⟨d, e⟩
      else if i.holds ((d + 1) * num) den = true then some ⟨d + 1, e⟩
      else none := by
  have hden : 0 < if 0 ≤ e then 1 else Nat.pow 10 (-e).toNat := by
    split
    · decide
    · exact Nat.pow_pos (by decide)
  exact ⟨_, _, _, _, hden, rfl⟩

theorem significand_of_onGrid? {tie : Tie} {value : Nat} {i : Interval} {e : Int} {s : Scientific}
    (hlow : 0 < i.low) (h : onGrid? tie value i e = some s) : s.significand ≠ 0 := by
  obtain ⟨d, num, den, take, hden, heq⟩ := onGrid?_eq tie value i e
  rw [heq] at h
  split at h
  · next hbelow =>
    cases h
    rintro (rfl : d = 0)
    rw [Nat.zero_mul, not_holds_zero hlow hden] at hbelow
    cases hbelow
  · split at h
    · cases h
      exact Nat.succ_ne_zero d
    · cases h

theorem exponent_shortestOf {tie : Tie} {pattern : Nat} (h : 0 < pattern)
    (hzero : (shortestOf tie pattern).significand = 0) :
    (shortestOf tie pattern).exponent = 0 := by
  unfold shortestOf at hzero ⊢
  dsimp only at hzero ⊢
  cases hfound : (List.range 17).findSome? fun n =>
      onGrid? tie (4 * Binary64.unitsOf pattern) (Interval.around pattern)
        (decimalPoint (4 * Binary64.unitsOf pattern) - (n + 1 : Nat)) with
  | none => rfl
  | some s =>
    obtain ⟨n, -, hn⟩ := List.exists_of_findSome?_eq_some hfound
    rw [hfound] at hzero
    exact absurd hzero (significand_of_onGrid? (low_around_pos h) hn)

/-- The shortest decimal of a number is in lowest terms. -/
theorem reduced_shortest (tie : Tie) (x : Binary64) : (shortest tie x).Reduced := by
  unfold shortest
  split
  · exact ⟨fun hne => absurd rfl hne, fun _ => rfl⟩
  · next hpos => exact Scientific.reduced_normalize fun hzero =>
      exponent_shortestOf (Nat.pos_of_ne_zero hpos) hzero

end HttpChain.Decimal
