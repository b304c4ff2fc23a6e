import HttpChain.Url.Basic
import HttpChain.Variable.Encoding
import Mathlib.Data.List.Basic

/-!
# HttpChain.Proofs.Variable.QueryForm

The form encoding of query strings and its inverse.  Whatever is encoded is
written with few characters, none of which delimits anything in a URL
(`isInert_of_mem_queryForm`), and decoding gives back the bytes of the text
(`formDecode_queryForm`).
-/

namespace HttpChain.Encoding

/-- The characters of the query form: letters and digits of ASCII, and `*-._+%`. -/
def isInert (c : Char) : Bool :=
  c.isAlphanum || c == '*' || c == '-' || c == '.' || c == '_' || c == '+' || c == '%'

/-- The bytes that a text in the query form stands for: a plus sign for a space,
and a percent sign with two digits for any byte. -/
def formDecode (cs : List Char) : List UInt8 :=
  Url.percentDecode (cs.map fun c => if c = '+' then ' ' else c)

/-- A byte that is kept is an ASCII character with no meaning in the form. -/
theorem of_keeps : ∀ {b : UInt8}, keeps b = true →
    String.utf8EncodeChar (Char.ofNat b.toNat) = [b] ∧ isInert (Char.ofNat b.toNat) = true ∧
      Char.ofNat b.toNat ≠ '+' ∧ Char.ofNat b.toNat ≠ '%' := by
  have h : ∀ n < 256, keeps (UInt8.ofNat n) = true →
      String.utf8EncodeChar (Char.ofNat n) = [UInt8.ofNat n] ∧ isInert (Char.ofNat n) = true ∧
        Char.ofNat n ≠ '+' ∧ Char.ofNat n ≠ '%' := by
    decide +kernel
  intro b hb
  have hbyte := h b.toNat b.toNat_lt
  rw [UInt8.ofNat_toNat] at hbyte
  exact hbyte hb

theorem isInert_upperHex : ∀ n < 16, isInert (Text.upperHex n) = true := by decide

theorem hexDigit_ne_plus : ∀ n < 16, Text.upperHex n ≠ '+' := by decide

/-- Whatever is encoded, none of its characters delimits anything in a URL. -/
theorem isInert_of_mem_queryForm {cs : List Char} {c : Char} (h : c ∈ queryForm cs) :
    isInert c = true := by
  rw [queryForm, List.mem_flatMap] at h
  obtain ⟨b, -, hc⟩ := h
  have hb := b.toNat_lt
  rw [queryByte] at hc
  split at hc
  · next hkeeps =>
    rw [List.mem_singleton] at hc
    rw [hc]
    exact (of_keeps hkeeps).2.1
  · split at hc
    · rw [List.mem_singleton] at hc
      rw [hc]
      decide
    · simp only [List.mem_cons, List.not_mem_nil, or_false] at hc
      rcases hc with rfl | rfl | rfl
      · decide
      · exact isInert_upperHex _ (by omega)
      · exact isInert_upperHex _ (by omega)

/-! ## decoding -/

theorem percentDecode_cons {c : Char} (h : c ≠ '%') (cs : List Char) :
    Url.percentDecode (c :: cs) = String.utf8EncodeChar c ++ Url.percentDecode cs := by
  rw [Url.percentDecode]
  · simp [Text.utf8]
  · simp [h]

theorem formDecode_queryByte_append (b : UInt8) (cs : List Char) :
    formDecode (queryByte b ++ cs) = b :: formDecode cs := by
  have hb := b.toNat_lt
  rw [queryByte]
  split
  · next hkeeps =>
    obtain ⟨hutf8, -, hplus, hpercent⟩ := of_keeps hkeeps
    rw [formDecode, List.singleton_append, List.map_cons, if_neg hplus,
      percentDecode_cons hpercent, hutf8]
    rfl
  · split
    · next hspace =>
      rw [formDecode, List.singleton_append, List.map_cons, if_pos rfl,
        percentDecode_cons (by decide), eq_of_beq hspace]
      rfl
    · have hhigh : b.toNat / 16 < 16 := by omega
      have hlow : b.toNat % 16 < 16 := Nat.mod_lt _ (by decide)
      rw [formDecode, List.cons_append, List.cons_append, List.singleton_append, List.map_cons,
        List.map_cons, List.map_cons, if_neg (by decide), if_neg (hexDigit_ne_plus _ hhigh),
        if_neg (hexDigit_ne_plus _ hlow), Url.percentDecode, Text.hexValue?_upperHex _ hhigh,
        Text.hexValue?_upperHex _ hlow]
      show UInt8.ofNat (16 * (b.toNat / 16) + b.toNat % 16) :: _ = _
      rw [Nat.div_add_mod, UInt8.ofNat_toNat]
      rfl

/-- Decoding gives back the bytes of what was encoded. -/
theorem formDecode_queryForm (cs : List Char) : formDecode (queryForm cs) = Text.utf8 cs := by
  rw [queryForm]
  induction Text.utf8 cs with
  | nil => simp [formDecode, Url.percentDecode]
  | cons b bs ih => rw [List.flatMap_cons, formDecode_queryByte_append, ih]

/-! ## what is the same in every encoding -/

theorem toNat_lt_of_isAlphanum {c : Char} (h : c.isAlphanum = true) : c.toNat < 128 := by
  change ((decide (c.val ≥ 65 ∧ c.val ≤ 90) || (decide (c.val ≥ 97) && decide (c.val ≤ 122))) ||
    (decide (c.val ≥ 48) && decide (c.val ≤ 57))) = true at h
  simp only [Bool.or_eq_true, Bool.and_eq_true, decide_eq_true_eq, ge_iff_le,
    UInt32.le_iff_toNat_le, UInt32.reduceToNat] at h
  change c.val.toNat < 128
  omega

/-- Letters and digits are written as they are. -/
theorem apply_of_isAlphanum (enc : Encoding) {cs : List Char}
    (h : ∀ c ∈ cs, c.isAlphanum = true) : enc.apply cs = cs := by
  have hchar : ∀ n < 128, (Char.ofNat n).isAlphanum = true →
      (String.utf8EncodeChar (Char.ofNat n)).flatMap queryByte = [Char.ofNat n] := by
    decide +kernel
  cases enc with
  | plain => rfl
  | query =>
    rw [apply, queryForm, Text.utf8, List.flatMap_assoc]
    refine (List.flatMap_congr fun c hc => ?_).trans (List.flatMap_singleton' cs)
    have hone := hchar c.toNat (toNat_lt_of_isAlphanum (h c hc))
    rw [Char.ofNat_toNat] at hone
    exact hone (h c hc)

end HttpChain.Encoding
