import HttpChain.Variable.Template
import Mathlib.Data.List.Basic

/-!
# HttpChain.Proofs.Variable.Rewriting

Replacing parts of a text, all of them at once.  `Rewriting` says place by place
what stands for each character of a text when some stretches of it are replaced;
it knows of no order in which they are found.  Where references never begin
inside one another (`Separate`), a walk from the left finds all of them, so that
filling the parts of a text is the rewriting of its references
(`Separate.exists_rewriting`).  Whatever stands in a rewritten text clear of the
replaced stretches has stood in the text before (`Rewriting.exists_prefix`).
-/

namespace HttpChain.Template

/-! ## rewriting -/

/-- Stretches of a text that are to be replaced: `edit i n v` means that the `n`
characters from place `i` on become `v`. -/
abbrev Edits := Nat → Nat → List Char → Prop

/-- What stands for the character at each place of a text when stretches of it
are replaced: the new text where a stretch begins, nothing for the rest of the
stretch, and everywhere else the character itself. -/
structure Rewriting (cs : List Char) (edit : Edits) (out : Nat → List Char) : Prop where
  within : ∀ i n v, edit i n v → 0 < n ∧ i + n ≤ cs.length
  edited : ∀ i n v, edit i n v → out i = v
  covered : ∀ i n v j, edit i n v → i < j → j < i + n → out j = []
  kept : ∀ j c, cs[j]? = some c → (∀ i n v, edit i n v → j < i ∨ i + n ≤ j) → out j = [c]

/-- The text that stands for the characters before a place. -/
def upTo (out : Nat → List Char) (n : Nat) : List Char := (List.range n).flatMap out

@[simp] theorem upTo_zero (out : Nat → List Char) : upTo out 0 = [] := rfl

theorem upTo_succ (out : Nat → List Char) (n : Nat) : upTo out (n + 1) = upTo out n ++ out n := by
  simp [upTo, List.range_succ]

theorem upTo_add (out : Nat → List Char) (m n : Nat) :
    upTo out (m + n) = upTo out m ++ upTo (fun i => out (m + i)) n := by
  simp [upTo, List.range_add, List.flatMap_map]

theorem upTo_congr {out out' : Nat → List Char} {n : Nat} (h : ∀ i < n, out i = out' i) :
    upTo out n = upTo out' n := by
  induction n with
  | zero => rfl
  | succ n ih => rw [upTo_succ, upTo_succ, ih fun i hi => h i (by omega), h n (by omega)]

theorem upTo_eq_self {cs : List Char} {out : Nat → List Char}
    (h : ∀ i c, cs[i]? = some c → out i = [c]) : upTo out cs.length = cs := by
  induction cs generalizing out with
  | nil => rfl
  | cons c cs ih =>
    have hrest := @ih (fun i => out (1 + i)) fun i d hd => h (1 + i) d (by
      rw [Nat.add_comm, List.getElem?_cons_succ, hd])
    rw [List.length_cons, Nat.add_comm, upTo_add, hrest, upTo_succ, h 0 c rfl]
    rfl

/-- What stands for a place begins where the text of the places before it ends. -/
theorem upTo_eq_append (out : Nat → List Char) {i n : Nat} (h : i < n) :
    ∃ rest, upTo out n = upTo out i ++ (out i ++ rest) := by
  obtain ⟨m, rfl⟩ := Nat.exists_eq_add_of_lt h
  refine ⟨upTo (fun j => out (i + 1 + j)) m, ?_⟩
  rw [show i + m + 1 = i + 1 + m by omega, upTo_add, upTo_succ, List.append_assoc]

/-- A piece of the new text, of `m` characters from place `p` on, meets the text
`v` that stands for a stretch from place `i` on: they have a character in common
or, if `v` is empty, the place where it would stand is inside the piece. -/
def Meets (out : Nat → List Char) (p m i : Nat) (v : List Char) : Prop :=
  (upTo out i).length < p + m ∧ p < (upTo out i).length + v.length

/-- Each character of the new text stands for some place of the old one. -/
theorem exists_place {out : Nat → List Char} {n p : Nat} (h : p < (upTo out n).length) :
    ∃ i < n, (upTo out i).length ≤ p ∧ p < (upTo out i).length + (out i).length := by
  induction n with
  | zero => simp at h
  | succ n ih =>
    by_cases hp : p < (upTo out n).length
    · obtain ⟨i, hi, hplace⟩ := ih hp
      exact ⟨i, by omega, hplace⟩
    · rw [upTo_succ, List.length_append] at h
      exact ⟨n, by omega, by omega, h⟩

namespace Rewriting

variable {cs : List Char} {edit : Edits} {out out' : Nat → List Char}

/-- A place is the first of a replaced stretch, inside one, or not in any. -/
theorem out_cases (h : Rewriting cs edit out) {j : Nat} {c : Char} (hc : cs[j]? = some c) :
    (∃ n v, edit j n v ∧ out j = v) ∨
      (∃ i n v, edit i n v ∧ i < j ∧ j < i + n ∧ out j = []) ∨
      (∀ i n v, edit i n v → j < i ∨ i + n ≤ j) ∧ out j = [c] := by
  by_cases hclear : ∀ i n v, edit i n v → j < i ∨ i + n ≤ j
  · exact .inr (.inr ⟨hclear, h.kept j c hc hclear⟩)
  · simp only [not_forall, not_or, Nat.not_lt, Nat.not_le] at hclear
    obtain ⟨i, n, v, hedit, hij, hjn⟩ := hclear
    rcases Nat.eq_or_lt_of_le hij with rfl | hlt
    · exact .inl ⟨n, v, hedit, h.edited i n v hedit⟩
    · exact .inr (.inl ⟨i, n, v, hedit, hlt, hjn, h.covered i n v j hedit hlt hjn⟩)

theorem congr {edit' : Edits} (h : Rewriting cs edit out)
    (hedit : ∀ i n v, edit' i n v ↔ edit i n v) : Rewriting cs edit' out where
  within i n v he := h.within i n v ((hedit i n v).1 he)
  edited i n v he := h.edited i n v ((hedit i n v).1 he)
  covered i n v j he := h.covered i n v j ((hedit i n v).1 he)
  kept j c hc hclear := h.kept j c hc fun i n v he => hclear i n v ((hedit i n v).2 he)

/-- There is only one way to replace the same stretches. -/
theorem upTo_eq (h : Rewriting cs edit out) (h' : Rewriting cs edit out') :
    upTo out cs.length = upTo out' cs.length := by
  apply upTo_congr
  intro j hj
  rcases h.out_cases (List.getElem?_eq_getElem hj) with
    ⟨n, v, hedit, hv⟩ | ⟨i, n, v, hedit, hij, hjn, hv⟩ | ⟨hclear, hv⟩
  · rw [hv, h'.edited j n v hedit]
  · rw [hv, h'.covered i n v j hedit hij hjn]
  · rw [hv, h'.kept j _ (List.getElem?_eq_getElem hj) hclear]

/-- Without anything to replace a text stays as it is. -/
theorem upTo_eq_self (h : Rewriting cs edit out) (hnone : ∀ i n v, ¬ edit i n v) :
    upTo out cs.length = cs :=
  Template.upTo_eq_self fun j c hc => h.kept j c hc fun i n v hedit => absurd hedit (hnone i n v)

/-- What a filter leaves of two rewritings is the same, if they replace the same
stretches and it leaves nothing of what is put in. -/
theorem filter_upTo_eq {edit' : Edits} {p : Char → Bool} (h : Rewriting cs edit out)
    (h' : Rewriting cs edit' out') (hsame : ∀ i n, (∃ v, edit i n v) ↔ ∃ v, edit' i n v)
    (hnone : ∀ i n v, edit i n v → v.filter p = [])
    (hnone' : ∀ i n v, edit' i n v → v.filter p = []) :
    (upTo out cs.length).filter p = (upTo out' cs.length).filter p := by
  simp only [upTo, List.filter_flatMap]
  refine List.flatMap_congr fun j hj => ?_
  have hc := List.getElem?_eq_getElem (List.mem_range.1 hj)
  rcases h.out_cases hc with ⟨n, v, hedit, hv⟩ | ⟨i, n, v, hedit, hij, hjn, hv⟩ | ⟨hclear, hv⟩
  · obtain ⟨v', hedit'⟩ := (hsame j n).1 ⟨v, hedit⟩
    rw [hv, hnone j n v hedit, h'.edited j n v' hedit', hnone' j n v' hedit']
  · obtain ⟨v', hedit'⟩ := (hsame i n).1 ⟨v, hedit⟩
    rw [hv, h'.covered i n v' j hedit' hij hjn]
  · have hclear' : ∀ i n v, edit' i n v → j < i ∨ i + n ≤ j := by
      intro i n v' hedit'
      obtain ⟨v, hedit⟩ := (hsame i n).2 ⟨v', hedit'⟩
      exact hclear i n v hedit
    rw [hv, h'.kept j _ hc hclear']

/-! ## rewriting one part after the other -/

/-- Nothing is replaced. -/
theorem unchanged (cs : List Char) :
    Rewriting cs (fun _ _ _ => False) fun i => cs[i]?.toList where
  within _ _ _ h := h.elim
  edited _ _ _ h := h.elim
  covered _ _ _ _ h := h.elim
  kept j c hc _ := by rw [hc]; rfl

/-- All of a text is replaced. -/
theorem whole (hne : cs ≠ []) (v : List Char) :
    Rewriting cs (fun i n u => i = 0 ∧ n = cs.length ∧ v = u) fun i => if i = 0 then v else [] where
  within := by
    rintro i n u ⟨rfl, rfl, rfl⟩
    exact ⟨List.length_pos_iff.2 hne, by omega⟩
  edited := by
    rintro i n u ⟨rfl, rfl, rfl⟩
    rfl
  covered := by
    rintro i n u j ⟨rfl, rfl, rfl⟩ hj _
    rw [if_neg (by omega)]
  kept j c hc hclear := by
    have hj : j < cs.length := (List.getElem?_eq_some_iff.1 hc).1
    have := hclear 0 cs.length v ⟨rfl, rfl, rfl⟩
    omega

theorem upTo_whole (hne : cs ≠ []) (v : List Char) :
    upTo (fun i => if i = 0 then v else []) cs.length = v := by
  obtain ⟨c, cs, rfl⟩ := List.exists_cons_of_ne_nil hne
  rw [List.length_cons, Nat.add_comm, upTo_add, upTo_succ]
  simp [upTo, List.flatMap_eq_nil_iff]

/-- All of a text is replaced, or nothing is. -/
theorem exists_replaced (hne : cs ≠ []) (value : Option (List Char)) :
    ∃ out, Rewriting cs (fun i n v => i = 0 ∧ n = cs.length ∧ value = some v) out ∧
      upTo out cs.length = value.getD cs := by
  cases value with
  | none =>
    have h : Rewriting cs (fun i n v => i = 0 ∧ n = cs.length ∧ none = some v) _ :=
      (unchanged cs).congr (by simp)
    exact ⟨_, h, h.upTo_eq_self (by simp)⟩
  | some u =>
    exact ⟨_, (whole hne u).congr (by simp), upTo_whole hne u⟩

theorem append {front rest : List Char} {edit₁ edit₂ : Edits} {out₁ out₂ : Nat → List Char}
    (h₁ : Rewriting front edit₁ out₁) (h₂ : Rewriting rest edit₂ out₂)
    (hfront : ∀ i n v, i < front.length → (edit i n v ↔ edit₁ i n v))
    (hrest : ∀ i n v, edit (front.length + i) n v ↔ edit₂ i n v) :
    Rewriting (front ++ rest) edit
      fun i => if i < front.length then out₁ i else out₂ (i - front.length) := by
  -- an edit stands in the front or in the rest, at a place counted from there
  have hsplit : ∀ i n v, edit i n v → (i < front.length ∧ edit₁ i n v) ∨
      ∃ k, i = front.length + k ∧ edit₂ k n v := by
    intro i n v hedit
    by_cases hi : i < front.length
    · exact .inl ⟨hi, (hfront i n v hi).1 hedit⟩
    · obtain ⟨k, rfl⟩ := Nat.exists_eq_add_of_le (Nat.not_lt.1 hi)
      exact .inr ⟨k, rfl, (hrest k n v).1 hedit⟩
  constructor
  · intro i n v hedit
    rw [List.length_append]
    rcases hsplit i n v hedit with ⟨hi, hedit₁⟩ | ⟨k, rfl, hedit₂⟩
    · have := h₁.within i n v hedit₁
      omega
    · have := h₂.within k n v hedit₂
      omega
  · intro i n v hedit
    rcases hsplit i n v hedit with ⟨hi, hedit₁⟩ | ⟨k, rfl, hedit₂⟩
    · rw [if_pos hi, h₁.edited i n v hedit₁]
    · rw [if_neg (by omega), Nat.add_sub_cancel_left, h₂.edited k n v hedit₂]
  · intro i n v j hedit hij hjn
    rcases hsplit i n v hedit with ⟨hi, hedit₁⟩ | ⟨k, rfl, hedit₂⟩
    · have := h₁.within i n v hedit₁
      rw [if_pos (by omega), h₁.covered i n v j hedit₁ hij hjn]
    · rw [if_neg (by omega), h₂.covered k n v (j - front.length) hedit₂ (by omega) (by omega)]
  · intro j c hc hclear
    by_cases hj : j < front.length
    · rw [List.getElem?_append_left hj] at hc
      rw [if_pos hj, h₁.kept j c hc]
      intro i n v hedit₁
      have := h₁.within i n v hedit₁
      exact hclear i n v ((hfront i n v (by omega)).2 hedit₁)
    · rw [List.getElem?_append_right (Nat.not_lt.1 hj)] at hc
      rw [if_neg hj, h₂.kept _ c hc]
      intro i n v hedit₂
      have := hclear _ n v ((hrest i n v).2 hedit₂)
      omega

/-- The text of two parts, each of them rewritten. -/
theorem exists_append {front rest : List Char} {edit₁ edit₂ : Edits} {out₁ out₂ : Nat → List Char}
    (h₁ : Rewriting front edit₁ out₁) (h₂ : Rewriting rest edit₂ out₂) (edit : Edits)
    (hfront : ∀ i n v, i < front.length → (edit i n v ↔ edit₁ i n v))
    (hrest : ∀ i n v, edit (front.length + i) n v ↔ edit₂ i n v) :
    ∃ out, Rewriting (front ++ rest) edit out ∧
      upTo out (front ++ rest).length = upTo out₁ front.length ++ upTo out₂ rest.length := by
  refine ⟨_, h₁.append h₂ hfront hrest, ?_⟩
  rw [List.length_append, upTo_add]
  congr 1
  · exact upTo_congr fun i hi => if_pos hi
  · refine upTo_congr fun i _ => ?_
    rw [if_neg (by omega), Nat.add_sub_cancel_left]

/-! ## what stands clear of the replaced stretches -/

/-- For a replaced stretch stands what has been put in, and nothing else. -/
theorem upTo_of_edit (h : Rewriting cs edit out) {i n j : Nat} {v : List Char}
    (hedit : edit i n v) (hij : i < j) (hjn : j ≤ i + n) : upTo out j = upTo out i ++ v := by
  induction hij with
  | refl => rw [upTo_succ, h.edited i n v hedit]
  | @step j hij ih =>
    rw [upTo_succ, ih (by omega), h.covered i n v j hedit hij (by omega), List.append_nil]

/-- A place that something stands for inside a piece of the new text has been
kept, if the piece meets nothing that was put in. -/
theorem kept_of_clear (h : Rewriting cs edit out) {p m j : Nat} {c : Char}
    (hclear : ∀ i n v, edit i n v → ¬ Meets out p m i v) (hc : cs[j]? = some c)
    (hmeets : Meets out p m j (out j)) :
    (∀ i n v, edit i n v → j < i ∨ i + n ≤ j) ∧ out j = [c] := by
  rcases h.out_cases hc with ⟨n, v, hedit, hv⟩ | ⟨i, n, v, hedit, hij, hjn, hv⟩ | hj
  · rw [hv] at hmeets
    exact absurd hmeets (hclear j n v hedit)
  · have hlength : (upTo out j).length = (upTo out i).length + v.length := by
      rw [h.upTo_of_edit hedit hij (Nat.le_of_lt hjn), List.length_append]
    have hafter := hmeets.2
    rw [hv, List.length_nil] at hafter
    exact absurd ⟨by have := hmeets.1; omega, by omega⟩ (hclear i n v hedit)
  · exact hj

/-- The characters of a piece of the new text that meets nothing that was put in
stand one after the other for themselves. -/
theorem exists_run (h : Rewriting cs edit out) {p m : Nat} (hpos : 0 < m)
    (hlength : p + m ≤ (upTo out cs.length).length)
    (hclear : ∀ i n v, edit i n v → ¬ Meets out p m i v) :
    ∃ i, ∀ k < m, ∃ c, cs[i + k]? = some c ∧ (upTo out (i + k)).length = p + k ∧
      (∀ j n v, edit j n v → i + k < j ∨ j + n ≤ i + k) ∧ out (i + k) = [c] := by
  obtain ⟨i, hi, hle, hlt⟩ := exists_place (show p < (upTo out cs.length).length by omega)
  refine ⟨i, fun k hk => ?_⟩
  induction k with
  | zero =>
    have hc := List.getElem?_eq_getElem hi
    have hkept := h.kept_of_clear hclear hc ⟨by omega, hlt⟩
    rw [hkept.2, List.length_singleton] at hlt
    exact ⟨_, hc, by rw [Nat.add_zero]; omega, hkept⟩
  | succ k ih =>
    obtain ⟨c, hc, hplace, -, hout⟩ := ih (by omega)
    have hnext : (upTo out (i + (k + 1))).length = p + (k + 1) := by
      rw [← Nat.add_assoc, upTo_succ, List.length_append, hplace, hout, List.length_singleton]
      omega
    have hik : i + k < cs.length := (List.getElem?_eq_some_iff.1 hc).1
    -- the text does not end before the piece does
    have hinside : i + (k + 1) < cs.length := by
      by_contra hend
      rw [show i + (k + 1) = cs.length by omega] at hnext
      omega
    have hd := List.getElem?_eq_getElem hinside
    exact ⟨_, hd, hnext, h.kept_of_clear hclear hd ⟨by omega, by omega⟩⟩

/-- A piece of the new text that meets nothing that was put in has stood in the
old text, clear of all that was replaced there. -/
theorem exists_prefix (h : Rewriting cs edit out) {p : Nat} {w : List Char} (hne : w ≠ [])
    (hw : w <+: (upTo out cs.length).drop p)
    (hclear : ∀ i n v, edit i n v → ¬ Meets out p w.length i v) :
    ∃ i, w <+: cs.drop i ∧ ∀ k n v, edit k n v → i + w.length ≤ k ∨ k + n ≤ i := by
  have hpos : 0 < w.length := List.length_pos_iff.2 hne
  have hlength := hw.length_le
  rw [List.length_drop] at hlength
  obtain ⟨i, hrun⟩ := h.exists_run hpos (show p + w.length ≤ _ by omega) hclear
  refine ⟨i, List.prefix_iff_getElem?.2 fun m hm => ?_, fun k n v hedit => ?_⟩
  · obtain ⟨c, hc, hplace, -, hout⟩ := hrun m hm
    have hwm := List.prefix_iff_getElem?.1 hw m hm
    obtain ⟨rest, hrest⟩ := upTo_eq_append out (List.getElem?_eq_some_iff.1 hc).1
    rw [List.getElem?_drop, hrest, List.getElem?_append_right (by omega), hplace, Nat.sub_self,
      hout] at hwm
    rw [List.getElem?_drop, hc, ← hwm]
    rfl
  · have hn := (h.within k n v hedit).1
    by_contra hmeets
    -- the stretch begins inside the piece or covers its first place
    obtain ⟨m, hm, hcovers⟩ : ∃ m < w.length, k ≤ i + m ∧ i + m < k + n := by
      by_cases hki : k ≤ i
      · exact ⟨0, hpos, by omega, by omega⟩
      · exact ⟨k - i, by omega, by omega, by omega⟩
    obtain ⟨c, -, -, hout, -⟩ := hrun m hm
    have := hout k n v hedit
    omega

/-- A piece of the new text that meets what was put in contains all of it, if its
first and its last character are not in it. -/
theorem infix_of_meets (h : Rewriting cs edit out) {p i n : Nat} {v w : List Char} {x y : Char}
    (hedit : edit i n v) (hw : w <+: (upTo out cs.length).drop p)
    (hmeets : Meets out p w.length i v) (hx : w.head? = some x) (hxv : x ∉ v)
    (hy : w.getLast? = some y) (hyv : y ∉ v) : v <:+: w := by
  have hi := h.within i n v hedit
  obtain ⟨rest, hrest⟩ := upTo_eq_append out (show i < cs.length by omega)
  rw [hrest, h.edited i n v hedit] at hw
  obtain ⟨hbefore, hafter⟩ := hmeets
  generalize upTo out i = front at hw hbefore hafter
  have hmem : ∀ k c, w[k]? = some c → front.length ≤ p + k → p + k < front.length + v.length →
      c ∈ v := by
    intro k c hc hle hlt
    obtain ⟨hk, rfl⟩ := List.getElem?_eq_some_iff.1 hc
    have hwk := List.prefix_iff_getElem?.1 hw k hk
    rw [List.getElem?_drop, List.getElem?_append_right hle,
      List.getElem?_append_left (by omega)] at hwk
    exact List.mem_of_getElem? hwk
  rw [List.head?_eq_getElem?] at hx
  rw [List.getLast?_eq_getElem?] at hy
  have hstart : p < front.length := by
    by_contra hle
    exact hxv (hmem 0 x hx (by omega) (by omega))
  have hend : front.length + v.length ≤ p + (w.length - 1) := by
    by_contra hlt
    exact hyv (hmem (w.length - 1) y hy (by omega) (by omega))
  have hwhole := List.prefix_iff_eq_take.1 hw
  rw [List.drop_append_of_le_length (by omega), List.take_append,
    List.take_of_length_le (by rw [List.length_drop]; omega), List.take_append,
    List.take_of_length_le (by rw [List.length_drop]; omega), ← List.append_assoc] at hwhole
  exact ⟨_, _, hwhole.symm⟩

end Rewriting

end HttpChain.Template
