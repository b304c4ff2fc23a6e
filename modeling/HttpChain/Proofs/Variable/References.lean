import HttpChain.Proofs.Variable.Rewriting

/-!
# HttpChain.Proofs.Variable.References

The references of a text, wherever they stand.  `parts` finds them on a walk from
the left that goes on behind each of them.  Where no reference begins inside
another one (`Separate`), the walk passes over none, and to fill the parts of a
text is to replace all references at once (`Separate.exists_rewriting`), whether
the value of a reference depends on its target alone or on its number as well.
-/

namespace HttpChain.Template

variable {α : Type} {g : Grammar α}

/-! ## the walk from the left -/

theorem parts_char {c : Char} {cs : List Char} (h : g (c :: cs) = none) :
    parts g (c :: cs) = .char c :: parts g cs := by
  rw [parts, partsFrom, h]
  rfl

theorem parts_ref {c : Char} {cs : List Char} {a : α} {more : Nat}
    (h : g (c :: cs) = some (a, more)) :
    parts g (c :: cs) = .ref a (c :: cs.take more) :: parts g (cs.drop more) := by
  rw [parts, partsFrom, h, parts, ← partsFrom_eq_drop]

/-- A reference at the front is followed by the parts of what stands behind it. -/
theorem parts_append {written rest : List Char} {a : α} {more : Nat}
    (h : g (written ++ rest) = some (a, more)) (hlength : more + 1 = written.length) :
    parts g (written ++ rest) = .ref a written :: parts g rest := by
  cases written with
  | nil => cases hlength
  | cons c cs =>
    have hmore : more = cs.length := by simpa using hlength
    rw [List.cons_append] at h ⊢
    rw [parts_ref h, hmore, List.take_left, List.drop_left]

/-- Induction along the parts of a text. -/
@[elab_as_elim]
theorem parts_induction (g : Grammar α) {motive : List Char → Prop} (nil : motive [])
    (char : ∀ c cs, g (c :: cs) = none → motive cs → motive (c :: cs))
    (ref : ∀ c cs a more, g (c :: cs) = some (a, more) → motive (cs.drop more) →
      motive (c :: cs)) : (cs : List Char) → motive cs
  | [] => nil
  | c :: cs =>
    match h : g (c :: cs) with
    | none => char c cs h (parts_induction g nil char ref cs)
    | some (a, more) => ref c cs a more h (parts_induction g nil char ref (cs.drop more))
termination_by cs => cs.length
decreasing_by
  · simp
  · simp only [List.length_cons, List.length_drop]
    omega

/-- Fill parts, where the value of a reference may depend on how many references
there are ahead of it. -/
def fillInOrder (value : Nat → α → Option (List Char)) : List (Part α) → List Char
  | [] => []
  | .char c :: ps => c :: fillInOrder value ps
  | .ref a written :: ps => (value 0 a).getD written ++ fillInOrder (fun k => value (k + 1)) ps

theorem fill_eq_fillInOrder (value : α → Option (List Char)) (ps : List (Part α)) :
    fill value ps = fillInOrder (fun _ => value) ps := by
  induction ps with
  | nil => rfl
  | cons p ps ih =>
    rw [fill] at ih
    cases p <;> rw [fill, List.flatMap_cons, ih] <;> rfl

/-! ## references that stay apart -/

/-- References end within their text, and none begins inside another one. -/
structure Separate (g : Grammar α) : Prop where
  within : ∀ cs a more, g cs = some (a, more) → more < cs.length
  apart : ∀ cs a more k, g cs = some (a, more) → 0 < k → k ≤ more → g (cs.drop k) = none

/-- The number of references ahead of a place. -/
def ahead (g : Grammar α) (cs : List Char) (i : Nat) : Nat :=
  (List.range i).countP fun j => (g (cs.drop j)).isSome

theorem ahead_add (g : Grammar α) (cs : List Char) (m i : Nat) :
    ahead g cs (m + i) = ahead g cs m + ahead g (cs.drop m) i := by
  rw [ahead, List.range_add, List.countP_append, List.countP_map, ahead, ahead]
  simp only [Function.comp_def, List.drop_drop]

/-- The references of a text that have a value, as stretches to be replaced. -/
def references (g : Grammar α) (value : Nat → α → Option (List Char)) (cs : List Char) : Edits :=
  fun i n v => ∃ a, (∃ more, g (cs.drop i) = some (a, more) ∧ n = more + 1) ∧
    value (ahead g cs i) a = some v

/-- The references behind a place are those of the rest of the text, where they
have other numbers. -/
theorem references_add (value : Nat → α → Option (List Char)) (cs : List Char) (m i n : Nat)
    (v : List Char) : references g value cs (m + i) n v ↔
      references g (fun k => value (k + ahead g cs m)) (cs.drop m) i n v := by
  rw [references, references, List.drop_drop, ahead_add, Nat.add_comm (ahead g cs m)]

namespace Separate

/-- References do not overlap. -/
theorem lt_of_lt (hg : Separate g) {cs : List Char} {i j m n : Nat} {a b : α}
    (hi : g (cs.drop i) = some (a, m)) (hj : g (cs.drop j) = some (b, n)) (hij : i < j) :
    i + m < j := by
  by_contra hover
  have hnone := hg.apart (cs.drop i) a m (j - i) hi (by omega) (by omega)
  rw [List.drop_drop, Nat.add_sub_cancel' (Nat.le_of_lt hij), hj] at hnone
  cases hnone

/-- Ahead of the end of a reference at the front there is that reference only. -/
theorem ahead_succ (hg : Separate g) {cs : List Char} {a : α} {more : Nat}
    (h : g cs = some (a, more)) : ahead g cs (more + 1) = 1 := by
  rw [ahead, List.range_succ_eq_map, List.countP_cons_of_pos (by simp [h]), List.countP_map,
    List.countP_eq_zero.2]
  intro k hk
  have hnone := hg.apart cs a more (k + 1) h (by omega) (List.mem_range.1 hk)
  simp [hnone]

/-- To fill the parts of a text is to replace all of its references at once. -/
theorem exists_rewriting (hg : Separate g) (value : Nat → α → Option (List Char))
    (cs : List Char) : ∃ out, Rewriting cs (references g value cs) out ∧
      upTo out cs.length = fillInOrder value (parts g cs) := by
  induction cs using parts_induction g generalizing value with
  | nil =>
    have h : Rewriting [] (references g value []) _ :=
      (Rewriting.unchanged []).congr fun i n v => by
        refine ⟨?_, False.elim⟩
        rintro ⟨a, ⟨more, hstands, -⟩, -⟩
        have := hg.within _ a more hstands
        simp at this
    exact ⟨_, h, rfl⟩
  | char c cs hnone ih =>
    obtain ⟨out, hout, htext⟩ := ih value
    have hfront := Rewriting.unchanged [c]
    rw [parts_char hnone, fillInOrder, ← htext]
    refine hfront.exists_append hout (references g value (c :: cs)) (fun i n v hi => ?_)
      fun i n v => ?_
    · obtain rfl : i = 0 := by simpa using hi
      simp [references, hnone]
    · have hzero : ahead g (c :: cs) 1 = 0 := by simp [ahead, hnone]
      rw [List.length_singleton, references_add, hzero]
      rfl
  | ref c cs a more hsome ih =>
    obtain ⟨out, hout, htext⟩ := ih fun k => value (k + 1)
    obtain ⟨own, hown, howntext⟩ :=
      Rewriting.exists_replaced (List.cons_ne_nil c (cs.take more)) (value 0 a)
    have hlength : (c :: cs.take more).length = more + 1 := by
      have := hg.within _ a more hsome
      simp only [List.length_cons, List.length_take] at this ⊢
      omega
    rw [parts_ref hsome, fillInOrder, ← htext, ← howntext]
    have happend := hown.exists_append hout (references g value (c :: cs))
    rw [List.cons_append, List.take_append_drop] at happend
    refine happend (fun i n v hi => ?_) fun i n v => ?_
    · rw [hlength] at hi ⊢
      cases i with
      | zero => simp [references, hsome, ahead]
      | succ i =>
        have hnone := hg.apart _ a more (i + 1) hsome (by omega) (by omega)
        rw [List.drop_succ_cons] at hnone
        simp [references, hnone]
    · rw [hlength, references_add, hg.ahead_succ hsome]
      rfl

/-- The walk passes over no reference. -/
theorem length_targets (hg : Separate g) (cs : List Char) :
    (targets g cs).length = ahead g cs cs.length := by
  induction cs using parts_induction g with
  | nil => rfl
  | char c cs hnone ih =>
    have hzero : ahead g (c :: cs) 1 = 0 := by simp [ahead, hnone]
    rw [List.length_cons, Nat.add_comm, ahead_add, hzero, Nat.zero_add, List.drop_succ_cons,
      List.drop_zero, ← ih, targets, targets, parts_char hnone, List.filterMap_cons]
  | ref c cs a more hsome ih =>
    have hmore := hg.within _ a more hsome
    have hlength : (c :: cs).length = more + 1 + (cs.drop more).length := by
      simp only [List.length_cons, List.length_drop] at hmore ⊢
      omega
    rw [hlength, ahead_add, hg.ahead_succ hsome, List.drop_succ_cons, ← ih, targets, targets,
      parts_ref hsome, List.filterMap_cons, List.length_cons, Nat.add_comm]

end Separate

/-! ## references with a text of their own -/

/-- Whatever a grammar reads is the text that a fitting target is written with, and
no such text begins inside another one. -/
structure Spelled (g : Grammar α) (fits : α → Prop) (written : α → List Char) : Prop where
  eq_some_iff : ∀ {cs a more}, g cs = some (a, more) ↔
    fits a ∧ written a <+: cs ∧ more + 1 = (written a).length
  apart : ∀ {a b k} rest, fits a → 0 < k → k < (written a).length →
    ¬ written b <+: (written a ++ rest).drop k

namespace Spelled

variable {fits : α → Prop} {written : α → List Char}

theorem separate (hg : Spelled g fits written) : Separate g where
  within cs a more h := by
    obtain ⟨-, hstarts, hmore⟩ := hg.eq_some_iff.1 h
    have := hstarts.length_le
    omega
  apart cs a more k h hpos hk := by
    obtain ⟨ha, ⟨rest, rfl⟩, hmore⟩ := hg.eq_some_iff.1 h
    rw [Option.eq_none_iff_forall_ne_some]
    rintro ⟨b, n⟩ hb
    obtain ⟨-, hstarts, -⟩ := hg.eq_some_iff.1 hb
    exact hg.apart rest ha hpos (by omega) hstarts

theorem exists_iff (hg : Spelled g fits written) (hne : ∀ a, written a ≠ []) {cs : List Char}
    {i n : Nat} {a : α} : (∃ more, g (cs.drop i) = some (a, more) ∧ n = more + 1) ↔
      (fits a ∧ written a <+: cs.drop i) ∧ n = (written a).length := by
  simp only [hg.eq_some_iff]
  constructor
  · rintro ⟨more, ⟨ha, hstarts, hmore⟩, rfl⟩
    exact ⟨⟨ha, hstarts⟩, hmore⟩
  · rintro ⟨⟨ha, hstarts⟩, rfl⟩
    have hpos := List.length_pos_iff.2 (hne a)
    exact ⟨(written a).length - 1, ⟨ha, hstarts, by omega⟩, by omega⟩

/-- References that stand in a text are the same one, or apart. -/
theorem eq_or_apart (hg : Spelled g fits written) (hne : ∀ a, written a ≠ []) {a b : α}
    {cs : List Char} {i j : Nat} (ha : fits a ∧ written a <+: cs.drop i)
    (hb : fits b ∧ written b <+: cs.drop j) :
    (i = j ∧ a = b) ∨ i + (written a).length ≤ j ∨ j + (written b).length ≤ i := by
  obtain ⟨m, hm, hma⟩ := (hg.exists_iff hne).2 ⟨ha, rfl⟩
  obtain ⟨n, hn, hnb⟩ := (hg.exists_iff hne).2 ⟨hb, rfl⟩
  rcases Nat.lt_trichotomy i j with hij | rfl | hji
  · have := hg.separate.lt_of_lt hm hn hij
    exact .inr (.inl (by omega))
  · rw [hm] at hn
    cases hn
    exact .inl ⟨rfl, rfl⟩
  · have := hg.separate.lt_of_lt hn hm hji
    exact .inr (.inr (by omega))

/-- The references of a text whose targets have a value, as stretches to be replaced. -/
def edits (fits : α → Prop) (written : α → List Char) (value : α → Option (List Char))
    (cs : List Char) : Edits := fun i n v =>
  ∃ a, (fits a ∧ written a <+: cs.drop i) ∧ n = (written a).length ∧ value a = some v

/-- Expansion replaces all references at once. -/
theorem exists_rewriting_expand (hg : Spelled g fits written) (hne : ∀ a, written a ≠ [])
    (value : α → Option (List Char)) (cs : List Char) :
    ∃ out, Rewriting cs (edits fits written value cs) out ∧
      upTo out cs.length = expand g value cs := by
  obtain ⟨out, hout, htext⟩ := hg.separate.exists_rewriting (fun _ => value) cs
  refine ⟨out, hout.congr fun i n v => ?_, ?_⟩
  · simp only [edits, references, hg.exists_iff hne, and_assoc]
  · rw [htext, expand, fill_eq_fillInOrder]

/-- Expansion asks for the values of the targets that occur, and of no others. -/
theorem expand_congr (hg : Spelled g fits written) (hne : ∀ a, written a ≠ [])
    {value value' : α → Option (List Char)} {cs : List Char}
    (h : ∀ a i, fits a → written a <+: cs.drop i → value a = value' a) :
    expand g value cs = expand g value' cs := by
  obtain ⟨out, hout, htext⟩ := hg.exists_rewriting_expand hne value cs
  obtain ⟨out', hout', htext'⟩ := hg.exists_rewriting_expand hne value' cs
  rw [← htext, ← htext']
  refine hout.upTo_eq (hout'.congr fun i n v => ?_)
  refine exists_congr fun a => and_congr_right fun hstands => ?_
  rw [h a i hstands.1 hstands.2]

/-- Where no target that occurs has a value, a text is left as it is. -/
theorem expand_eq_self (hg : Spelled g fits written) (hne : ∀ a, written a ≠ [])
    {value : α → Option (List Char)} {cs : List Char}
    (h : ∀ a i, fits a → written a <+: cs.drop i → value a = none) :
    expand g value cs = cs := by
  obtain ⟨out, hout, htext⟩ := hg.exists_rewriting_expand hne value cs
  rw [← htext, hout.upTo_eq_self]
  rintro i n v ⟨a, hstands, -, hvalue⟩
  rw [h a i hstands.1 hstands.2] at hvalue
  cases hvalue

end Spelled

end HttpChain.Template
