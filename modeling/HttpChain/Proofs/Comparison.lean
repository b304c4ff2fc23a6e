import HttpChain.Comparison
import Mathlib.Logic.ExistsUnique

/-!
# HttpChain.Proofs.Comparison

The laws of comparisons.  A text denotes a signed 64-bit integer if it is a numeral of
one (`integer?_eq_some_iff`).  Two operands are ordered as numbers if both of them
denote one, and as texts otherwise (`order_eq_iff`); so equality is an equivalence and
swapping the operands turns the order around, whatever they are.  The order is
transitive among numbers and among other texts (`order_trans`), but not across the two.
-/

namespace HttpChain

/-! ## numerals -/

namespace Text

/-- Decimal digits, at least one. -/
def Digits (ds : List Char) : Prop := ds ≠ [] ∧ ds.all isDigit = true

/-- The numerals of an integer: digits, behind a plus sign or none, of their number, and
behind a minus sign of its negative.  Leading zeros do not matter. -/
inductive Numeral : List Char → Int → Prop where
  | unsigned {ds : List Char} (h : Digits ds) : Numeral ds (decimalValue ds)
  | plus {ds : List Char} (h : Digits ds) : Numeral ('+' :: ds) (decimalValue ds)
  | minus {ds : List Char} (h : Digits ds) : Numeral ('-' :: ds) (-(decimalValue ds : Int))

theorem Digits.not_cons {c : Char} {cs : List Char} (h : Digits (c :: cs)) :
    c ≠ '+' ∧ c ≠ '-' := by
  have hdigit : isDigit c = true := by
    have hall := h.2
    simp only [List.all_cons, Bool.and_eq_true] at hall
    exact hall.1
  constructor <;> rintro rfl <;> exact absurd hdigit (by decide)

theorem digits?_eq_some_iff {ds : List Char} {n : Int} :
    readInteger?.digits? ds = some n ↔ Digits ds ∧ (decimalValue ds : Int) = n := by
  unfold readInteger?.digits?
  by_cases h : ds ≠ [] ∧ ds.all isDigit = true
  · simp [h, Digits]
  · rw [if_neg h]
    exact ⟨nofun, fun hdigits => absurd hdigits.1 h⟩

/-- Reading an integer reads the numerals. -/
theorem readInteger?_eq_some_iff {cs : List Char} {n : Int} :
    readInteger? cs = some n ↔ Numeral cs n := by
  constructor
  · intro h
    unfold readInteger? at h
    split at h
    · obtain ⟨hdigits, rfl⟩ := digits?_eq_some_iff.1 h
      exact .plus hdigits
    · obtain ⟨m, hm, rfl⟩ := Option.map_eq_some_iff.1 h
      obtain ⟨hdigits, rfl⟩ := digits?_eq_some_iff.1 hm
      exact .minus hdigits
    · obtain ⟨hdigits, rfl⟩ := digits?_eq_some_iff.1 h
      exact .unsigned hdigits
  · intro h
    cases h with
    | plus h => exact digits?_eq_some_iff.2 ⟨h, rfl⟩
    | minus h => simp [readInteger?, digits?_eq_some_iff.2 ⟨h, rfl⟩]
    | unsigned h =>
      cases cs with
      | nil => exact absurd rfl h.1
      | cons c cs =>
        obtain ⟨hplus, hminus⟩ := h.not_cons
        unfold readInteger?
        split
        · next heq => exact absurd (List.cons.inj heq).1 hplus
        · next heq => exact absurd (List.cons.inj heq).1 hminus
        · exact digits?_eq_some_iff.2 ⟨h, rfl⟩

end Text

namespace Comparison

/-- A text denotes a signed 64-bit integer: it is a numeral of it. -/
def Denotes (text : String) (n : Int) : Prop :=
  Text.Numeral text.toList n ∧ -0x8000000000000000 ≤ n ∧ n < 0x8000000000000000

theorem integer?_eq_some_iff {text : String} {n : Int} :
    integer? text = some n ↔ Denotes text n := by
  unfold integer? Denotes
  simp [Option.filter_eq_some_iff, Text.readInteger?_eq_some_iff, Text.fitsInt64]

/-- A text denotes one integer at most. -/
theorem Denotes.unique {text : String} {m n : Int} (hm : Denotes text m) (hn : Denotes text n) :
    m = n := by
  rw [← integer?_eq_some_iff] at hm hn
  exact Option.some.inj (hm.symm.trans hn)

/-- A text that denotes an integer. -/
def IsInteger (text : String) : Prop := ∃ n, Denotes text n

/-! ## how operands are ordered -/

section Order

variable {l r s : String} {a b : Int}

/-- Two operands that both denote an integer are ordered as numbers. -/
theorem order_of_denotes (hl : Denotes l a) (hr : Denotes r b) : order l r = Ord.compare a b := by
  rw [← integer?_eq_some_iff] at hl hr
  unfold order
  rw [hl, hr]
  rfl

/-- All other operands are ordered as texts. -/
theorem order_of_not_integer (h : ¬ (IsInteger l ∧ IsInteger r)) :
    order l r = Ord.compare l r := by
  unfold order
  cases hl : integer? l with
  | none => rfl
  | some a =>
    cases hr : integer? r with
    | none => rfl
    | some b =>
      have hboth : IsInteger l ∧ IsInteger r :=
        ⟨⟨a, integer?_eq_some_iff.1 hl⟩, ⟨b, integer?_eq_some_iff.1 hr⟩⟩
      exact absurd hboth h

/-- The order of two operands, of numbers or of texts. -/
theorem order_eq_iff {o : Ordering} : order l r = o ↔
    (∃ a b, Denotes l a ∧ Denotes r b ∧ Ord.compare a b = o) ∨
      ¬ (IsInteger l ∧ IsInteger r) ∧ Ord.compare l r = o := by
  by_cases h : IsInteger l ∧ IsInteger r
  · obtain ⟨⟨a, ha⟩, ⟨b, hb⟩⟩ := id h
    rw [order_of_denotes ha hb]
    constructor
    · exact fun ho => .inl ⟨a, b, ha, hb, ho⟩
    · intro ho
      cases ho with
      | inl ho =>
        obtain ⟨a', b', ha', hb', ho⟩ := ho
        rwa [ha.unique ha', hb.unique hb']
      | inr ho => exact absurd h ho.1
  · rw [order_of_not_integer h]
    constructor
    · exact fun ho => .inr ⟨h, ho⟩
    · intro ho
      cases ho with
      | inl ho =>
        obtain ⟨a, b, ha, hb, -⟩ := ho
        exact absurd ⟨⟨a, ha⟩, ⟨b, hb⟩⟩ h
      | inr ho => exact ho.2

theorem order_eq_lt_iff : order l r = .lt ↔
    (∃ a b, Denotes l a ∧ Denotes r b ∧ a < b) ∨ ¬ (IsInteger l ∧ IsInteger r) ∧ l < r := by
  have htext : Ord.compare l r = .lt ↔ l < r := compareOfLessAndEq_eq_lt
  simp only [order_eq_iff, htext, Int.compare_eq_lt]

theorem order_eq_eq_iff : order l r = .eq ↔ l = r ∨ ∃ n, Denotes l n ∧ Denotes r n := by
  simp only [order_eq_iff, Std.LawfulEqOrd.compare_eq_iff_eq]
  constructor
  · intro h
    cases h with
    | inl h =>
      obtain ⟨a, b, ha, hb, rfl⟩ := h
      exact .inr ⟨a, ha, hb⟩
    | inr h => exact .inl h.2
  · intro h
    cases h with
    | inl h =>
      subst h
      by_cases hl : IsInteger l
      · obtain ⟨n, hn⟩ := hl
        exact .inl ⟨n, n, hn, hn, rfl⟩
      · exact .inr ⟨fun hboth => hl hboth.1, rfl⟩
    | inr h =>
      obtain ⟨n, hl, hr⟩ := h
      exact .inl ⟨n, n, hl, hr, rfl⟩

/-- Swapping the operands turns the order around. -/
theorem order_swap (l r : String) : order r l = (order l r).swap := by
  by_cases h : IsInteger l ∧ IsInteger r
  · obtain ⟨⟨a, ha⟩, ⟨b, hb⟩⟩ := h
    rw [order_of_denotes ha hb, order_of_denotes hb ha]
    exact Std.OrientedOrd.eq_swap
  · rw [order_of_not_integer h, order_of_not_integer (fun h' => h h'.symm)]
    exact Std.OrientedOrd.eq_swap

/-- The order is transitive as long as all operands are numbers, or none is. -/
theorem order_trans (h : (IsInteger l ∧ IsInteger r ∧ IsInteger s) ∨
    ¬ IsInteger l ∧ ¬ IsInteger r ∧ ¬ IsInteger s) (hlr : order l r = .lt) (hrs : order r s = .lt) :
    order l s = .lt := by
  cases h with
  | inl h =>
    obtain ⟨⟨a, ha⟩, ⟨b, hb⟩, ⟨c, hc⟩⟩ := h
    rw [order_of_denotes ha hb] at hlr
    rw [order_of_denotes hb hc] at hrs
    rw [order_of_denotes ha hc]
    exact Std.TransCmp.lt_trans hlr hrs
  | inr h =>
    obtain ⟨hl, hr, hs⟩ := h
    rw [order_of_not_integer fun h => hl h.1] at hlr ⊢
    rw [order_of_not_integer fun h => hr h.1] at hrs
    exact Std.TransCmp.lt_trans hlr hrs

end Order

/-! ## the laws -/

/-- The comparison that holds exactly if the given one does not. -/
def negation : Comparison → Comparison
  | equal => notEqual
  | notEqual => equal
  | atMost => greater
  | atLeast => less
  | less => atLeast
  | greater => atMost

/-- The comparison with its operands swapped. -/
def converse : Comparison → Comparison
  | equal => equal
  | notEqual => notEqual
  | atMost => atLeast
  | atLeast => atMost
  | less => greater
  | greater => less

theorem compare_negation (c : Comparison) (l r : String) :
    c.negation.compare l r = !c.compare l r := by
  unfold compare
  cases order l r <;> cases c <;> rfl

theorem compare_converse (c : Comparison) (l r : String) :
    c.converse.compare r l = c.compare l r := by
  unfold compare
  rw [order_swap]
  cases order l r <;> cases c <;> rfl

@[simp] theorem compare_less (l r : String) : less.compare l r = true ↔ order l r = .lt :=
  beq_iff_eq

@[simp] theorem compare_equal (l r : String) : equal.compare l r = true ↔ order l r = .eq :=
  beq_iff_eq

/-- Exactly one of less, equal and greater holds of two operands. -/
theorem existsUnique_compare (l r : String) :
    ∃! c : Comparison, c ∈ [less, equal, greater] ∧ c.compare l r = true := by
  unfold compare
  cases order l r with
  | lt => exact ⟨less, by decide, by intro c; cases c <;> decide⟩
  | eq => exact ⟨equal, by decide, by intro c; cases c <;> decide⟩
  | gt => exact ⟨greater, by decide, by intro c; cases c <;> decide⟩

/-- Equality of operands is an equivalence.  A text that denotes an integer equals the
numerals of that integer, and every other text itself alone. -/
theorem equivalence_equal : Equivalence fun l r : String => equal.compare l r = true where
  refl l := by simp [order_eq_eq_iff]
  symm {l r} h := by rw [← compare_converse]; exact h
  trans {l r s} hlr hrs := by
    simp only [compare_equal, order_eq_eq_iff] at hlr hrs ⊢
    cases hlr with
    | inl heq => rwa [heq]
    | inr hlr =>
      cases hrs with
      | inl heq => rw [← heq]; exact .inr hlr
      | inr hrs =>
        obtain ⟨m, hl, hr⟩ := hlr
        obtain ⟨n, hr', hs⟩ := hrs
        rw [← hr.unique hr'] at hs
        exact .inr ⟨m, hl, hs⟩

/-- The laws of comparisons, for all operands.  Exactly one of less, equal and greater
holds; the other three are the negations of these; swapping the operands exchanges less
with greater and keeps equal.  Operands are equal if they are the same text or denote
the same integer, and that is an equivalence; the left one is less if both denote an
integer and its integer is, and otherwise if its text is.  Among texts that denote
integers, and among texts that do not, less is transitive. -/
theorem compare_laws :
    (∀ l r, ∃! c : Comparison, c ∈ [less, equal, greater] ∧ c.compare l r = true) ∧
    (∀ l r, notEqual.compare l r = !equal.compare l r ∧
      atLeast.compare l r = !less.compare l r ∧ atMost.compare l r = !greater.compare l r) ∧
    (∀ l r, less.compare r l = greater.compare l r ∧ greater.compare r l = less.compare l r ∧
      atMost.compare r l = atLeast.compare l r ∧ atLeast.compare r l = atMost.compare l r ∧
      equal.compare r l = equal.compare l r ∧ notEqual.compare r l = notEqual.compare l r) ∧
    (∀ l r, equal.compare l r = true ↔ l = r ∨ ∃ n, Denotes l n ∧ Denotes r n) ∧
    (Equivalence fun l r : String => equal.compare l r = true) ∧
    (∀ l r, less.compare l r = true ↔
      (∃ a b, Denotes l a ∧ Denotes r b ∧ a < b) ∨ ¬ (IsInteger l ∧ IsInteger r) ∧ l < r) ∧
    ∀ l r s, (IsInteger l ∧ IsInteger r ∧ IsInteger s) ∨
        (¬ IsInteger l ∧ ¬ IsInteger r ∧ ¬ IsInteger s) →
      less.compare l r = true → less.compare r s = true → less.compare l s = true := by
  refine ⟨existsUnique_compare, fun l r => ?_, fun l r => ?_, fun l r => ?_, equivalence_equal,
    fun l r => ?_, fun l r s hall hlr hrs => ?_⟩
  · exact ⟨compare_negation equal l r, compare_negation less l r, compare_negation greater l r⟩
  · exact ⟨compare_converse greater l r, compare_converse less l r, compare_converse atLeast l r,
      compare_converse atMost l r, compare_converse equal l r, compare_converse notEqual l r⟩
  · rw [compare_equal, order_eq_eq_iff]
  · rw [compare_less, order_eq_lt_iff]
  · rw [compare_less] at hlr hrs ⊢
    exact order_trans hall hlr hrs

/-- Signs come before zeros: as texts the three are in another order. -/
theorem compare_laws_signed : (IsInteger "-05" ∧ IsInteger "+3" ∧ IsInteger "12") ∧
    less.compare "-05" "+3" = true ∧ less.compare "+3" "12" = true ∧
    less.compare "-05" "12" = true := by
  obtain ⟨-, -, -, -, -, -, htrans⟩ := compare_laws
  have hall : IsInteger "-05" ∧ IsInteger "+3" ∧ IsInteger "12" :=
    ⟨⟨-5, integer?_eq_some_iff.1 (by decide)⟩, ⟨3, integer?_eq_some_iff.1 (by decide)⟩,
      ⟨12, integer?_eq_some_iff.1 (by decide)⟩⟩
  have hfirst : less.compare "-05" "+3" = true := by decide
  have hsecond : less.compare "+3" "12" = true := by decide
  exact ⟨hall, hfirst, hsecond, htrans _ _ _ (.inl hall) hfirst hsecond⟩

/-- Across numbers and other texts the order is not transitive. -/
example : less.compare "10" "1a" = true ∧ less.compare "1a" "9" = true ∧
    less.compare "9" "10" = true := by
  decide

end Comparison

end HttpChain
