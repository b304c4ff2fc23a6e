import HttpChain.Decimal.Layout
import HttpChain.Proofs.Decimal.Shortest
import HttpChain.Proofs.Text.Decimal

/-!
# HttpChain.Proofs.Decimal.Layout

What the layouts of binary64 numbers look like: a document writes a float with nothing
but digits, signs, a point and an exponent (`isFloatChar_of_mem_documentForm`), and
begins with a digit or a minus (`documentForm_eq_cons`).
-/

namespace HttpChain.Decimal

open Text

variable {digits : List Char} {point : Int} {c : Char}

/-- The characters of floats in a document. -/
def isFloatChar (c : Char) : Bool := isDigit c || c == '-' || c == '+' || c == '.' || c == 'e'

theorem isFloatChar_of_isDigit (h : isDigit c = true) : isFloatChar c = true := by
  simp [isFloatChar, h]

/-- Plain notation has digits and a point in it, and nothing else. -/
theorem isDigit_or_point_of_mem_positional (hdigits : digits.all isDigit = true)
    (h : c ∈ positional digits point) : isDigit c = true ∨ c = '.' := by
  have hdigit : ∀ d ∈ digits, isDigit d = true := List.all_eq_true.1 hdigits
  have hzero : ∀ n, ∀ d ∈ List.replicate n '0', isDigit d = true := by
    intro n d hd
    rw [List.eq_of_mem_replicate hd]
    decide
  unfold positional at h
  dsimp only at h
  split at h
  · rcases List.mem_append.1 h with h | h
    · exact .inl (hdigit c h)
    · exact .inl (hzero _ c h)
  · split at h
    · rcases List.mem_append.1 h with h | h
      · exact .inl (hdigit c (List.mem_of_mem_take h))
      · exact (List.mem_cons.1 h).symm.imp (fun h => hdigit c (List.mem_of_mem_drop h)) id
    · simp only [List.mem_cons, List.mem_append] at h
      rcases h with rfl | rfl | h | h
      · exact .inl (by decide)
      · exact .inr rfl
      · exact .inl (hzero _ c h)
      · exact .inl (hdigit c h)

theorem isFloatChar_of_mem_positional (hdigits : digits.all isDigit = true)
    (h : c ∈ positional digits point) : isFloatChar c = true := by
  rcases isDigit_or_point_of_mem_positional hdigits h with h | rfl
  · exact isFloatChar_of_isDigit h
  · decide

/-- Exponential notation has only the characters of floats in it. -/
theorem isFloatChar_of_mem_exponential (hdigits : digits.all isDigit = true)
    (h : c ∈ exponential digits point) : isFloatChar c = true := by
  have hdigit : ∀ d ∈ digits, isFloatChar d = true := fun d hd =>
    isFloatChar_of_isDigit (List.all_eq_true.1 hdigits d hd)
  rcases List.mem_append.1 h with h | h
  · split at h
    · cases h
    · exact hdigit c h
    · simp only [List.mem_cons] at h
      rcases h with rfl | rfl | h
      · exact hdigit c List.mem_cons_self
      · decide
      · exact hdigit c (List.mem_cons_of_mem _ h)
  · simp only [List.mem_cons] at h
    rcases h with rfl | rfl | h
    · decide
    · split <;> decide
    · exact isFloatChar_of_isDigit (isDigit_of_mem_decimal h)

/-- Plain notation opens with a digit. -/
theorem positional_eq_cons (hdigits : Digits digits) (point : Int) :
    ∃ c cs, positional digits point = c :: cs ∧ isDigit c = true := by
  obtain ⟨d, ds, rfl⟩ := List.exists_cons_of_ne_nil hdigits.1
  have hall : isDigit d = true ∧ ds.all isDigit = true := by simpa using hdigits.2
  unfold positional
  dsimp only
  split
  · exact ⟨d, _, rfl, hall.1⟩
  · split
    · next hpos =>
      obtain ⟨n, hn⟩ : ∃ n, point.toNat = n + 1 := ⟨point.toNat - 1, by omega⟩
      rw [hn]
      exact ⟨d, _, rfl, hall.1⟩
    · exact ⟨'0', _, rfl, by decide⟩

/-- Exponential notation opens with a digit. -/
theorem exponential_eq_cons (hdigits : Digits digits) (point : Int) :
    ∃ c cs, exponential digits point = c :: cs ∧ isDigit c = true := by
  obtain ⟨d, ds, rfl⟩ := List.exists_cons_of_ne_nil hdigits.1
  have hall : isDigit d = true ∧ ds.all isDigit = true := by simpa using hdigits.2
  cases ds with
  | nil => exact ⟨d, _, rfl, hall.1⟩
  | cons e ds => exact ⟨d, _, rfl, hall.1⟩

/-- What a document writes of the shortest decimal of a float, its sign apart. -/
def documentBody (s : Scientific) : List Char :=
  let digits := decimal s.significand
  let point : Int := digits.length + s.exponent
  if s.significand = 0 then ['0', '.', '0']
  else if 16 < point || point ≤ -5 then exponential digits point
  else if 0 ≤ s.exponent then positional digits point ++ ['.', '0']
  else positional digits point

theorem documentForm_eq (x : Binary64) : documentForm x =
    if x.negative then '-' :: documentBody (shortest .toEven x)
    else documentBody (shortest .toEven x) := rfl

theorem isFloatChar_of_mem_documentBody {s : Scientific} (h : c ∈ documentBody s) :
    isFloatChar c = true := by
  have hdigits := (digits_decimal s.significand).2
  have hzeros : ∀ d ∈ ['0', '.', '0'], isFloatChar d = true := List.all_eq_true.1 rfl
  unfold documentBody at h
  dsimp only at h
  split at h
  · exact hzeros c h
  · split at h
    · exact isFloatChar_of_mem_exponential hdigits h
    · split at h
      · rcases List.mem_append.1 h with h | h
        · exact isFloatChar_of_mem_positional hdigits h
        · exact hzeros c (List.mem_cons_of_mem _ h)
      · exact isFloatChar_of_mem_positional hdigits h

/-- A float opens with a digit in a document, but for its sign. -/
theorem documentBody_eq_cons (s : Scientific) :
    ∃ c cs, documentBody s = c :: cs ∧ isDigit c = true := by
  have hdigits := digits_decimal s.significand
  unfold documentBody
  dsimp only
  split
  · exact ⟨'0', _, rfl, by decide⟩
  · split
    · exact exponential_eq_cons hdigits _
    · obtain ⟨c, cs, hcs, hc⟩ :=
        positional_eq_cons hdigits ((decimal s.significand).length + s.exponent)
      split
      · exact ⟨c, cs ++ ['.', '0'], by rw [hcs]; rfl, hc⟩
      · exact ⟨c, cs, hcs, hc⟩

/-- A document writes a float with digits, signs, a point and an exponent. -/
theorem isFloatChar_of_mem_documentForm {x : Binary64} (h : c ∈ documentForm x) :
    isFloatChar c = true := by
  rw [documentForm_eq] at h
  split at h
  · rcases List.mem_cons.1 h with rfl | h
    · decide
    · exact isFloatChar_of_mem_documentBody h
  · exact isFloatChar_of_mem_documentBody h

/-- A float opens with a sign or a digit in a document. -/
theorem documentForm_eq_cons (x : Binary64) :
    ∃ c cs, documentForm x = c :: cs ∧ (c = '-' ∨ isDigit c = true) := by
  obtain ⟨c, cs, hcs, hc⟩ := documentBody_eq_cons (shortest .toEven x)
  rw [documentForm_eq]
  split
  · exact ⟨'-', _, rfl, .inl rfl⟩
  · exact ⟨c, cs, hcs, .inr hc⟩

/-! ## both layouts of one number -/

/-- The digits before a point and behind it. -/
theorem eq_of_append_point {a b a' b' : List Char} (ha : '.' ∉ a) (ha' : '.' ∉ a')
    (h : a ++ '.' :: b = a' ++ '.' :: b') : a = a' ∧ b = b' := by
  induction a generalizing a' with
  | nil =>
    cases a' with
    | nil => exact ⟨rfl, List.cons.inj h |>.2⟩
    | cons c a' => exact absurd (List.cons.inj h).1 fun hc => ha' (hc ▸ List.mem_cons_self)
  | cons c a ih =>
    cases a' with
    | nil => exact absurd (List.cons.inj h).1 fun hc => ha (hc ▸ List.mem_cons_self)
    | cons c' a' =>
      rw [List.mem_cons, not_or] at ha ha'
      obtain ⟨rfl, hrest⟩ := List.cons.inj h
      obtain ⟨rfl, rfl⟩ := ih ha.2 ha'.2 hrest
      exact ⟨rfl, rfl⟩

theorem not_mem_of_digits (h : digits.all isDigit = true) (hc : isDigit c = false) : c ∉ digits := by
  intro hmem
  rw [List.all_eq_true.1 h c hmem] at hc
  cases hc

/-- Zeros in front do not count. -/
theorem decimalValue_zeros (k : Nat) (ds : List Char) :
    decimalValue (List.replicate k '0' ++ ds) = decimalValue ds := by
  induction k with
  | zero => rfl
  | succ k ih => rw [List.replicate_succ, List.cons_append, ← ih]; rfl

/-- Without a fraction, a positional form has no point. -/
theorem positional_of_nonneg {e : Int} (he : 0 ≤ e) (digits : List Char) :
    positional digits (digits.length + e) = digits ++ List.replicate e.toNat '0' := by
  unfold positional
  dsimp only
  rw [if_pos (by omega)]
  congr 3
  omega

/-- With a fraction, a positional form has as many digits behind its point as the exponent
says, and all of them together make the significand. -/
theorem exists_positional_of_neg {e : Int} (he : e < 0) (hdigits : Digits digits) :
    ∃ a b, positional digits (digits.length + e) = a ++ '.' :: b ∧ '.' ∉ a ∧
      (b.length : Int) = -e ∧ decimalValue (a ++ b) = decimalValue digits := by
  unfold positional
  dsimp only
  rw [if_neg (by omega)]
  have hpoint : '.' ∉ digits := not_mem_of_digits hdigits.2 (by decide)
  split
  · refine ⟨_, _, rfl, fun hmem => hpoint (List.mem_of_mem_take hmem), ?_, ?_⟩
    · rw [List.length_drop]
      omega
    · rw [List.take_append_drop]
  · refine ⟨['0'], _, rfl, by decide, ?_, ?_⟩
    · rw [List.length_append, List.length_replicate]
      omega
    · exact decimalValue_zeros (_ + 1) digits

/-- A decimal written positionally. -/
def plainBody (s : Scientific) : List Char :=
  positional (decimal s.significand) ((decimal s.significand).length + s.exponent)

theorem scalarForm_eq (x : Binary64) : scalarForm x =
    if x.negative then '-' :: plainBody (shortest .up x) else plainBody (shortest .up x) := rfl

/-- A scalar is written with digits, a sign and a point. -/
theorem mem_scalarForm {x : Binary64} (h : c ∈ scalarForm x) :
    isDigit c = true ∨ c = '-' ∨ c = '.' := by
  have hbody (hmem : c ∈ plainBody (shortest .up x)) : isDigit c = true ∨ c = '-' ∨ c = '.' :=
    (isDigit_or_point_of_mem_positional (digits_decimal _).2 hmem).imp id .inr
  rw [scalarForm_eq] at h
  split at h
  · rcases List.mem_cons.1 h with rfl | h
    · exact .inr (.inl rfl)
    · exact hbody h
  · exact hbody h

/-- A config scalar never has an exponent. -/
theorem not_mem_plainBody (s : Scientific) : 'e' ∉ plainBody s := fun h => by
  have hchar := isDigit_or_point_of_mem_positional (digits_decimal s.significand).2 h
  exact absurd hchar (by decide)

/-- A config scalar that is whole has no point. -/
theorem not_mem_plainBody_of_nonneg {s : Scientific} (h : 0 ≤ s.exponent) :
    '.' ∉ plainBody s := by
  rw [plainBody, positional_of_nonneg h, List.mem_append, not_or]
  refine ⟨not_mem_of_digits (digits_decimal _).2 (by decide), fun hmem => ?_⟩
  exact absurd (List.eq_of_mem_replicate hmem) (by decide)

/-- A config scalar that is not whole has as many digits behind its point as the exponent
says. -/
theorem exists_plainBody_of_neg {s : Scientific} (h : s.exponent < 0) :
    ∃ a b, plainBody s = a ++ '.' :: b ∧ '.' ∉ a ∧ (b.length : Int) = -s.exponent ∧
      decimalValue (a ++ b) = s.significand := by
  obtain ⟨a, b, hform, ha, hb, hvalue⟩ :=
    exists_positional_of_neg h (digits_decimal s.significand)
  exact ⟨a, b, hform, ha, hb, by rw [hvalue, decimalValue_decimal]⟩

/-- A decimal with a fraction is determined by its positional form. -/
theorem plainBody_inj {s t : Scientific} (hs : s.exponent < 0) (ht : t.exponent < 0)
    (h : plainBody s = plainBody t) : s = t := by
  obtain ⟨a, b, hform, ha, hb, hvalue⟩ := exists_plainBody_of_neg hs
  obtain ⟨a', b', hform', ha', hb', hvalue'⟩ := exists_plainBody_of_neg ht
  rw [hform, hform'] at h
  obtain ⟨rfl, rfl⟩ := eq_of_append_point ha ha' h
  obtain ⟨m, e⟩ := s
  obtain ⟨n, f⟩ := t
  simp only at hb hb' hvalue hvalue'
  rw [Scientific.mk.injEq]
  omega

/-- A decimal in lowest terms with a fraction does not end in a zero. -/
theorem ne_plainBody_of_zero {s : Scientific} (hs : s.Reduced) (hneg : s.exponent < 0)
    {a : List Char} (ha : '.' ∉ a) : plainBody s ≠ a ++ ['.', '0'] := by
  intro h
  obtain ⟨a', b, hform, ha', hb, hvalue⟩ := exists_plainBody_of_neg hneg
  rw [hform] at h
  obtain ⟨rfl, rfl⟩ := eq_of_append_point ha' ha h
  rw [decimalValue_concat] at hvalue
  have hten : s.significand % 10 = 0 := by
    rw [← hvalue]
    show (10 * decimalValue a' + 0) % 10 = 0
    omega
  have hzero : s.significand = 0 := by
    by_contra hne
    exact hs.last hne hten
  exact absurd (hs.zero hzero) (by omega)

/-- A float in a document has a point or an exponent, also if it is whole. -/
theorem mark_mem_documentBody {s : Scientific} : '.' ∈ documentBody s ∨ 'e' ∈ documentBody s := by
  unfold documentBody
  dsimp only
  split
  · exact .inl (by decide)
  · split
    · exact .inr (List.mem_append_right _ List.mem_cons_self)
    · split
      · exact .inl (List.mem_append_right _ List.mem_cons_self)
      · next hneg =>
        obtain ⟨a, b, hform, -⟩ :=
          exists_positional_of_neg (Int.not_le.1 hneg) (digits_decimal s.significand)
        rw [hform]
        exact .inl (List.mem_append_right _ List.mem_cons_self)

/-- A float in a document is told from an integer by a point or an exponent. -/
theorem mark_mem_documentForm (x : Binary64) : '.' ∈ documentForm x ∨ 'e' ∈ documentForm x := by
  rw [documentForm_eq]
  split
  · exact mark_mem_documentBody.imp (List.mem_cons_of_mem _) (List.mem_cons_of_mem _)
  · exact mark_mem_documentBody

/-- A document writes a decimal positionally if it has a fraction, is not too large and not
too small; nothing else that it writes is the positional form of a decimal in lowest terms. -/
theorem documentBody_eq_plainBody_iff {s t : Scientific} (hs : s.Reduced) (ht : t.Reduced) :
    documentBody s = plainBody t ↔ t = s ∧ s.exponent < 0 ∧
      -5 < (decimal s.significand).length + s.exponent ∧
      (decimal s.significand).length + s.exponent ≤ 16 := by
  constructor
  · intro h
    have hneg : t.exponent < 0 := by
      by_contra hnonneg
      rcases mark_mem_documentBody (s := s) with hmark | hmark
      · exact not_mem_plainBody_of_nonneg (Int.not_lt.1 hnonneg) (h ▸ hmark)
      · exact not_mem_plainBody t (h ▸ hmark)
    unfold documentBody at h
    dsimp only at h
    split at h
    · exact absurd h.symm (ne_plainBody_of_zero ht hneg (a := ['0']) (by decide))
    · split at h
      · have hmark : 'e' ∈ plainBody t := by
          rw [← h]
          exact List.mem_append_right _ List.mem_cons_self
        exact absurd hmark (not_mem_plainBody t)
      · next hrange =>
        simp only [Bool.or_eq_true, decide_eq_true_eq, not_or] at hrange
        split at h
        · next hnonneg =>
          exact absurd h.symm (ne_plainBody_of_zero ht hneg (not_mem_plainBody_of_nonneg hnonneg))
        · next hfraction =>
          exact ⟨(plainBody_inj (Int.not_le.1 hfraction) hneg h).symm, by omega, by omega, by omega⟩
  · intro h
    obtain ⟨rfl, hneg, hlow, hhigh⟩ := h
    have hne : t.significand ≠ 0 := fun hzero => by
      rw [ht.zero hzero] at hneg
      exact absurd hneg (by decide)
    unfold documentBody
    dsimp only
    rw [if_neg hne, if_neg (by simp; omega), if_neg (by omega)]
    rfl

/-- A float whose two layouts are the same: it has a fraction, it is neither too large nor
too small to be written positionally in a document, and its shortest decimal is the same
whichever of two equally near ones is taken. -/
structure Plain (x : Binary64) : Prop where
  fraction : (shortest .toEven x).exponent < 0
  large : -5 < (decimal (shortest .toEven x).significand).length + (shortest .toEven x).exponent
  small : (decimal (shortest .toEven x).significand).length + (shortest .toEven x).exponent ≤ 16
  untied : shortest .up x = shortest .toEven x

/-- The two texts of a float agree exactly if it is plain. -/
theorem documentForm_eq_scalarForm_iff (x : Binary64) :
    documentForm x = scalarForm x ↔ Plain x := by
  have hbody : documentForm x = scalarForm x ↔
      documentBody (shortest .toEven x) = plainBody (shortest .up x) := by
    rw [documentForm_eq, scalarForm_eq]
    cases x.negative <;> simp
  rw [hbody, documentBody_eq_plainBody_iff (reduced_shortest .toEven x) (reduced_shortest .up x)]
  constructor
  · rintro ⟨huntied, hfraction, hlarge, hsmall⟩
    exact ⟨hfraction, hlarge, hsmall, huntied⟩
  · rintro ⟨hfraction, hlarge, hsmall, huntied⟩
    exact ⟨huntied, hfraction, hlarge, hsmall⟩

instance (x : Binary64) : Decidable (Plain x) :=
  decidable_of_iff _ (documentForm_eq_scalarForm_iff x)

end HttpChain.Decimal
