import HttpChain.Proofs.Comparison
import Mathlib.Data.List.Basic
import Mathlib.Data.List.Induction
import Mathlib.Data.Nat.Digits.Defs

/-!
# HttpChain.Proofs.Text.Decimal

Decimal digits and the numbers they denote.  Digits of one number are the same if they
are as many (`eq_of_decimalValue_eq`), and without a superfluous zero at the front they
are the decimal form of their number (`decimal_decimalValue`).
-/

namespace HttpChain.Text

variable {n : Nat} {c : Char} {ds : List Char}

/-! ## one digit -/

theorem isDigit_eq (c : Char) : isDigit c = c.isDigit := by
  simp [isDigit, Char.isDigit, Char.le_def]

theorem toNat_of_isDigit (h : isDigit c = true) : 48 ≤ c.toNat ∧ c.toNat < 58 := by
  simp only [isDigit, Bool.and_eq_true, decide_eq_true_eq, Char.le_def, UInt32.le_iff_toNat_le]
    at h
  exact ⟨h.1, Nat.lt_succ_of_le h.2⟩

theorem digitChar_of_isDigit (h : isDigit c = true) : (c.toNat - 48).digitChar = c := by
  obtain ⟨hlow, hhigh⟩ := toNat_of_isDigit h
  have hall : ∀ d < 10, (d : Nat).digitChar = Char.ofNat (48 + d) := by decide
  rw [hall _ (by omega), Nat.add_sub_cancel' hlow, Char.ofNat_toNat]

/-! ## the number that digits denote -/

/-- Decimal digits, most significant first, are digits to the base ten. -/
theorem decimalValue_eq_ofDigits (cs : List Char) :
    decimalValue cs = Nat.ofDigits 10 (cs.map fun c => c.toNat - 48).reverse := by
  simp only [decimalValue, valueInBase, Nat.ofDigits_eq_foldr, List.foldr_reverse,
    Nat.cast_id, Nat.add_comm]

theorem decimalValue_concat (ds : List Char) (c : Char) :
    decimalValue (ds ++ [c]) = 10 * decimalValue ds + (c.toNat - 48) := by
  simp [decimalValue, valueInBase]

theorem lt_of_mem_digits {cs : List Char} (h : cs.all isDigit = true) :
    ∀ d ∈ (cs.map fun c => c.toNat - 48).reverse, d < 10 := by
  intro d hd
  obtain ⟨c, hc, rfl⟩ := List.mem_map.1 (List.mem_reverse.1 hd)
  have := toNat_of_isDigit (List.all_eq_true.1 h c hc)
  omega

/-- A digit is recovered from its value. -/
theorem map_ofNat_digits {cs : List Char} (h : cs.all isDigit = true) :
    (cs.map fun c => c.toNat - 48).map (fun d => Char.ofNat (48 + d)) = cs := by
  rw [List.map_map]
  refine (List.map_congr_left fun c hc => ?_).trans (List.map_id cs)
  have hle := (toNat_of_isDigit (List.all_eq_true.1 h c hc)).1
  rw [Function.comp_apply, Nat.add_sub_cancel' hle, Char.ofNat_toNat, id]

/-- Digits of the same number are the same, if they are as many. -/
theorem eq_of_decimalValue_eq {as bs : List Char} (has : as.all isDigit = true)
    (hbs : bs.all isDigit = true) (hlen : as.length = bs.length)
    (h : decimalValue as = decimalValue bs) : as = bs := by
  rw [decimalValue_eq_ofDigits, decimalValue_eq_ofDigits] at h
  -- as digits of a number in positional notation they are determined by it
  have hvalues := List.reverse_injective <| Nat.ofDigits_inj_of_len_eq (by decide)
    (by simpa using hlen) (lt_of_mem_digits has) (lt_of_mem_digits hbs) h
  rw [← map_ofNat_digits has, hvalues, map_ofNat_digits hbs]

/-! ## the decimal form of a number -/

theorem isDigit_of_mem_decimal (h : c ∈ decimal n) : isDigit c = true := by
  rw [isDigit_eq]
  exact Nat.isDigit_of_mem_toDigits (by decide) (by decide) h

theorem digits_decimal (n : Nat) : Digits (decimal n) :=
  ⟨Nat.toDigits_ne_nil, List.all_eq_true.2 fun _ => isDigit_of_mem_decimal⟩

/-- A number does not begin with a zero, unless it is zero. -/
theorem head?_decimal (h : 0 < n) : (decimal n).head? ≠ some '0' := by
  induction n using Nat.strongRecOn with
  | ind n ih =>
    rw [decimal, Nat.toDigits_eq_if (by decide)]
    split
    · next hlt =>
      have hdigit : ∀ n < 10, 0 < n → [n.digitChar].head? ≠ some '0' := by decide
      exact hdigit n hlt h
    · have hrest := ih (n / 10) (by omega) (by omega)
      obtain ⟨c, cs, hcs⟩ :=
        List.exists_cons_of_ne_nil (Nat.toDigits_ne_nil (n := n / 10) (b := 10))
      rw [decimal, hcs] at hrest
      rw [hcs]
      exact hrest

@[simp] theorem decimalValue_decimal (n : Nat) : decimalValue (decimal n) = n := by
  have h := Nat.ofDigitChars_ten_toDigits (n := n)
  rw [Nat.ofDigitChars_eq_foldl] at h
  rw [decimalValue, valueInBase, List.foldl_map]
  exact h

/-- The zero that a number may begin with is its only digit. -/
theorem not_superfluous_decimal (n : Nat) :
    ¬ (1 < (decimal n).length ∧ (decimal n).head? = some '0') := by
  rintro ⟨hlength, hhead⟩
  rcases Nat.eq_zero_or_pos n with rfl | hpos
  · exact absurd hlength (by decide)
  · exact head?_decimal hpos hhead

/-- Digits without a superfluous zero are the decimal form of the number they denote. -/
theorem decimal_decimalValue (hdigits : Digits ds)
    (hzero : ¬ (1 < ds.length ∧ ds.head? = some '0')) : decimal (decimalValue ds) = ds := by
  -- the last digit is the remainder, so the digits are taken off from the end
  induction ds using List.reverseRecOn with
  | nil => exact absurd rfl hdigits.1
  | append_singleton ds c ih =>
    have hall : ds.all isDigit = true ∧ isDigit c = true := by simpa using hdigits.2
    obtain ⟨hlow, hhigh⟩ := toNat_of_isDigit hall.2
    rw [decimalValue_concat, decimal, Nat.toDigits_eq_if (by decide)]
    by_cases hds : ds = []
    · subst hds
      rw [if_pos (show 10 * decimalValue [] + (c.toNat - 48) < 10 by
          simp only [decimalValue, valueInBase, List.map_nil, List.foldl_nil]
          omega)]
      simp [decimalValue, valueInBase, digitChar_of_isDigit hall.2]
    · have hhead : ds.head? ≠ some '0' := fun h => hzero (by
        have hlength := List.length_pos_iff.2 hds
        simp [List.head?_append, h, hlength])
      have hrest : decimal (decimalValue ds) = ds :=
        ih ⟨hds, hall.1⟩ fun h => hhead h.2
      have hpos : 0 < decimalValue ds := Nat.pos_of_ne_zero fun hvalue => hhead (by
        rw [← hrest, hvalue]
        rfl)
      rw [if_neg (by omega), show (10 * decimalValue ds + (c.toNat - 48)) / 10 = decimalValue ds
          by omega, show (10 * decimalValue ds + (c.toNat - 48)) % 10 = c.toNat - 48 by omega,
        digitChar_of_isDigit hall.2]
      exact congrArg (· ++ [c]) hrest

/-- Numerals consist of digits and a sign. -/
theorem Numeral.isDigit_or_sign {cs : List Char} {n : Int} (h : Numeral cs n) (hc : c ∈ cs) :
    isDigit c = true ∨ c = '+' ∨ c = '-' := by
  cases h with
  | unsigned hds => exact .inl (List.all_eq_true.1 hds.2 c hc)
  | plus hds =>
    rcases List.mem_cons.1 hc with rfl | hc
    · exact .inr (.inl rfl)
    · exact .inl (List.all_eq_true.1 hds.2 c hc)
  | minus hds =>
    rcases List.mem_cons.1 hc with rfl | hc
    · exact .inr (.inr rfl)
    · exact .inl (List.all_eq_true.1 hds.2 c hc)

theorem signedDecimal_natCast (n : Nat) : signedDecimal n = decimal n := rfl

theorem signedDecimal_neg (h : 0 < n) : signedDecimal (-n) = '-' :: decimal n := by
  cases n with
  | zero => exact absurd h (Nat.lt_irrefl 0)
  | succ n => rfl

/-- The decimal form of an integer is a numeral of it. -/
theorem numeral_signedDecimal (n : Int) : Numeral (signedDecimal n) n := by
  cases n with
  | ofNat m =>
    have h := Numeral.unsigned (digits_decimal m)
    rwa [decimalValue_decimal] at h
  | negSucc m =>
    have h := Numeral.minus (digits_decimal (m + 1))
    rwa [decimalValue_decimal] at h

end HttpChain.Text
