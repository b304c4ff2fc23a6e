import HttpChain.Proofs.Text.Decimal
import HttpChain.Proofs.Toml.Strings
import Mathlib.Data.List.TakeWhile

/-!
# HttpChain.Proofs.Toml.Values

Values on lines of their own as they are written and read: strings, truth
values, natural numbers, and arrays of these (`value?_valueForm`).
-/

namespace HttpChain.Toml

/-! ## decimal numbers -/

section

variable {n : Nat} {c : Char}

/-- No digit lies behind `9`. -/
theorem toNat_le_of_isDigit (h : c.isDigit = true) : c.toNat ≤ 57 := by
  simp only [Char.isDigit, Bool.and_eq_true, decide_eq_true_eq, UInt32.le_iff_toNat_le] at h
  exact h.2

/-- No digit lies ahead of `0`. -/
theorem le_toNat_of_isDigit (h : c.isDigit = true) : 48 ≤ c.toNat := by
  simp only [Char.isDigit, Bool.and_eq_true, decide_eq_true_eq, ge_iff_le,
    UInt32.le_iff_toNat_le] at h
  exact h.1

/-- A decimal digit has the same value among the hexadecimal ones. -/
theorem hexValue?_of_isDigit (h : c.isDigit = true) : Text.hexValue? c = some (c.toNat - 48) := by
  have hle : ('0' ≤ c && c ≤ '9') = true := by
    simpa [Char.isDigit, Char.le_def] using h
  rw [Text.hexValue?, if_pos hle]

/-- The decimal text of a number has digits in it and nothing else. -/
theorem isDigit_of_mem_decimal (h : c ∈ Text.decimal n) : c.isDigit = true :=
  Nat.isDigit_of_mem_toDigits (by decide) (by decide) h

theorem not_mem_decimal (h : c.isDigit = false) : c ∉ Text.decimal n := fun hc => by
  rw [isDigit_of_mem_decimal hc] at h
  cases h

/-- Underscores are no matter in a text that has only digits. -/
theorem underscoresFit_of_forall {p : Char → Bool} {cs : List Char} (h : ∀ c ∈ cs, p c = true) :
    underscoresFit p cs = true := by
  fun_induction underscoresFit p cs <;> simp_all

/-- Decimal digits all have a value. -/
theorem mapM_hexValue? {cs : List Char} (h : ∀ c ∈ cs, c.isDigit = true) :
    cs.mapM Text.hexValue? = some (cs.map fun c => c.toNat - 48) := by
  induction cs with
  | nil => rfl
  | cons c cs ih =>
    rw [List.mapM_cons, hexValue?_of_isDigit (h c List.mem_cons_self),
      ih fun x hx => h x (List.mem_cons_of_mem _ hx)]
    rfl

/-- The digits of a number are read from its decimal text, all of them. -/
theorem digits?_decimal (n : Nat) :
    digits? 10 (Text.decimal n) = some ((Text.decimal n).map fun c => c.toNat - 48) := by
  have hfilter : (Text.decimal n).filter (· ≠ '_') = Text.decimal n := by
    refine List.filter_eq_self.2 fun c hc => ?_
    have hc : c ≠ '_' := fun h => not_mem_decimal (by decide) (h ▸ hc)
    simpa using hc
  have hne : Text.decimal n ≠ [] := Nat.toDigits_ne_nil
  rw [digits?, hfilter, mapM_hexValue? fun c => isDigit_of_mem_decimal]
  refine if_pos ⟨hne, underscoresFit_of_forall fun c hc => ?_⟩
  have hdigit := isDigit_of_mem_decimal hc
  have hle := toNat_le_of_isDigit hdigit
  simp only [hexValue?_of_isDigit hdigit, decide_eq_true_eq]
  omega

/-- The digits of a decimal text are accepted, as there is no zero in front of others. -/
theorem plainDigits?_decimal (n : Nat) :
    plainDigits? (Text.decimal n) = some ((Text.decimal n).map fun c => c.toNat - 48) := by
  rw [plainDigits?, digits?_decimal]
  refine if_neg ?_
  rintro ⟨hzero, hlength⟩
  rcases Nat.eq_zero_or_pos n with rfl | hpos
  · exact absurd hlength (by decide)
  · obtain ⟨c, cs, hcs⟩ := List.exists_cons_of_ne_nil (Nat.toDigits_ne_nil (n := n) (b := 10))
    have hhead := Text.head?_decimal hpos
    have hdigit := isDigit_of_mem_decimal (n := n) (c := c) (by rw [Text.decimal, hcs]; simp)
    have hle := le_toNat_of_isDigit hdigit
    rw [Text.decimal, hcs] at hhead hzero
    simp only [List.map_cons, List.head?_cons, Option.some.injEq] at hhead hzero
    exact hhead (congrArg some (Char.toNat_inj.1 (show c.toNat = 48 by omega)))

/-- A text is not split where the separator is not in it. -/
theorem splitOnce_of_not_mem {sep : Char} {cs : List Char} (h : sep ∉ cs) :
    Text.splitOnce sep cs = none := by
  induction cs with
  | nil => rfl
  | cons c cs ih =>
    rw [List.mem_cons, not_or] at h
    rw [Text.splitOnce, if_neg (Ne.symm h.1), ih h.2]
    rfl

/-- A number of at most 128 bits is within the bounds of integers. -/
theorem integer?_natCast (hn : n < 0x100000000000000000000000000000000) :
    integer? n = some (.integer n) := by
  have hbounds : (-0x80000000000000000000000000000000 : Int) ≤ n ∧
      (n : Int) < 0x100000000000000000000000000000000 := by
    constructor <;> omega
  rw [integer?, if_pos hbounds]

/-- A text without a point and an exponent is read as an integer. -/
theorem decimal?_of_plainDigits? {cs : List Char} {ds : List Nat}
    (hmantissa : cs.takeWhile (fun c => !isExponent c) = cs)
    (hpoint : Text.splitOnce '.' cs = none) (hds : plainDigits? cs = some ds) :
    decimal? false cs = integer? (Text.valueInBase 10 ds) := by
  simp only [decimal?, hmantissa, List.drop_length, hpoint, hds]
  -- one step at a time: the whole at once would have the bounds of integers computed
  rw [Option.bind_eq_bind, Option.bind_some]
  rw [Option.bind_eq_bind, Option.bind_some]
  rw [if_neg Bool.false_ne_true]

/-- A decimal text is read as an integer and not as a float. -/
theorem decimal?_decimal (hn : n < 0x100000000000000000000000000000000) :
    decimal? false (Text.decimal n) = some (.integer n) := by
  have hmantissa : (Text.decimal n).takeWhile (fun c => !isExponent c) = Text.decimal n := by
    refine List.takeWhile_eq_self_iff.2 fun c hc => ?_
    have hle := toNat_le_of_isDigit (isDigit_of_mem_decimal hc)
    simp only [isExponent, Bool.not_eq_true', Bool.or_eq_false_iff, beq_eq_false_iff_ne]
    constructor <;> rintro rfl <;> revert hle <;> decide
  have hpoint : '.' ∉ Text.decimal n := not_mem_decimal (by decide)
  rw [decimal?_of_plainDigits? hmantissa (splitOnce_of_not_mem hpoint) (plainDigits?_decimal n),
    ← Text.decimalValue, Text.decimalValue_decimal, integer?_natCast hn]

/-- There is no time without a colon. -/
theorem isHourMinute_eq_false {cs : List Char} (h : ':' ∉ cs) : isHourMinute cs = false := by
  unfold isHourMinute
  split
  · next heq => exact absurd (List.mem_of_mem_drop (heq ▸ List.mem_cons_self)) h
  · rfl

/-- There is no date without a hyphen. -/
theorem isDate_eq_false {cs : List Char} (h : '-' ∉ cs) : isDate cs = false := by
  unfold isDate
  split
  · next heq => exact absurd (List.mem_of_mem_drop (heq ▸ List.mem_cons_self)) h
  · rfl

/-- A decimal text is no date and no time, however long it is. -/
theorem isMoment_decimal (n : Nat) : isMoment (Text.decimal n) = false := by
  have hcolon : ':' ∉ Text.decimal n := not_mem_decimal (by decide)
  have hhyphen : '-' ∉ Text.decimal n := not_mem_decimal (by decide)
  have htime : isTime (Text.decimal n) = false := by
    rw [isTime, isHourMinute_eq_false fun h => hcolon (List.mem_of_mem_take h), Bool.false_and]
  have hdate : isDate ((Text.decimal n).take 10) = false :=
    isDate_eq_false fun h => hhyphen (List.mem_of_mem_take h)
  rw [isMoment, htime, hdate, isDate_eq_false hhyphen]
  rfl

/-- A natural number is read back.  Its text is no word such as `true`, no moment and no
number in another base, as each of these has a character in it that is no digit. -/
theorem scalar?_decimal (hn : n < 0x100000000000000000000000000000000) :
    scalar? (Text.decimal n) = some (.integer n) := by
  have hsign : sign (Text.decimal n) = (false, Text.decimal n) := by
    unfold sign
    split
    · next heq => exact absurd (heq ▸ List.mem_cons_self) (not_mem_decimal (n := n) (by decide))
    · next heq => exact absurd (heq ▸ List.mem_cons_self) (not_mem_decimal (n := n) (by decide))
    · rfl
  have hword : ∀ s : String, (∃ c ∈ s.toList, c.isDigit = false) →
      String.ofList (Text.decimal n) ≠ s := by
    rintro s ⟨c, hc, hdigit⟩ rfl
    rw [String.toList_ofList] at hc
    exact not_mem_decimal hdigit hc
  have hbase : ∀ c more, c.isDigit = false → Text.decimal n ≠ '0' :: c :: more := by
    intro c more hdigit heq
    exact not_mem_decimal (n := n) hdigit (by rw [heq]; simp)
  simp only [scalar?, hsign]
  split
  · next h => exact absurd h (hword _ ⟨'t', by decide, by decide⟩)
  · next h => exact absurd h (hword _ ⟨'f', by decide, by decide⟩)
  · next h => exact absurd h (hword _ ⟨'i', by decide, by decide⟩)
  · next h => exact absurd h (hword _ ⟨'n', by decide, by decide⟩)
  · rw [if_neg (by simp [isMoment_decimal])]
    split
    · next heq => exact absurd heq (hbase _ _ (by decide))
    · next heq => exact absurd heq (hbase _ _ (by decide))
    · next heq => exact absurd heq (hbase _ _ (by decide))
    · exact decimal?_decimal hn

end

/-! ## blanks and line ends -/

/-- Characters that a text can begin with once blanks, comments and line ends
are cut from its front. -/
def Visible (c : Char) : Prop := c ∉ [' ', '\t', '\n', '\r', '#']

instance : DecidablePred Visible := fun c =>
  inferInstanceAs (Decidable (c ∉ [' ', '\t', '\n', '\r', '#']))

/-- Cutting blank lines ends at a visible character. -/
theorem skipAll_of_skipBlanks {c : Char} {cs more : List Char} (hne : cs ≠ [])
    (hblanks : skipBlanks cs = c :: more) (h : Visible c) : skipAll cs = c :: more := by
  simp only [Visible, List.mem_cons, not_or] at h
  have hcomment : skipComment (c :: more) = c :: more := by
    rw [skipComment]
    exact fun _ heq => absurd (List.cons.inj heq).1 h.2.2.2.2.1
  have hline : lineEnd? (c :: more) = none := by
    apply lineEnd?_of_head? <;> simp [h]
  obtain ⟨d, ds, rfl⟩ := List.exists_cons_of_ne_nil hne
  simp only [skipAll, List.length_cons, skipLines, hblanks, hcomment, hline]

theorem skipAll_cons {c : Char} (h : Visible c) (cs : List Char) : skipAll (c :: cs) = c :: cs := by
  refine skipAll_of_skipBlanks (by simp) (skipBlanks_cons ?_ cs) h
  constructor <;> rintro rfl <;> revert h <;> decide

theorem skipAll_newline (cs : List Char) : skipAll ('\n' :: cs) = skipAll cs := rfl

/-- The indentation of an element is cut. -/
theorem skipAll_indent {c : Char} (h : Visible c) (cs : List Char) :
    skipAll ("    ".toList ++ c :: cs) = c :: cs := by
  have hblanks : skipBlanks (c :: cs) = c :: cs := by
    apply skipBlanks_cons
    constructor <;> rintro rfl <;> revert h <;> decide
  exact skipAll_of_skipBlanks (by simp) hblanks h

/-! ## scalars -/

/-- What follows a value: the end of its line, or of an element of an array. -/
def Ends (rest : List Char) : Prop := ∃ c more, rest = c :: more ∧ c ∈ ['\n', ',', ']']

/-- What follows a value does not carry on the quotes of a string. -/
theorem Ends.unquoted {rest : List Char} (h : Ends rest) : Unquoted rest := by
  obtain ⟨c, more, rfl, hc⟩ := h
  constructor <;> rintro ⟨⟩ <;> revert hc <;> decide

/-- Strings, truth values and natural numbers of at most 128 bits. -/
inductive Scalar : Toml → Prop
  | string (s : String) : Scalar (.string s)
  | bool (b : Bool) : Scalar (.bool b)
  | natural {n : Nat} (h : n < 0x100000000000000000000000000000000) : Scalar (.integer n)

/-- A string opens with a quote in each of the four forms in which it can be written. -/
theorem exists_cons_stringForm (s : String) :
    ∃ c cs, stringForm s = c :: cs ∧ (c = '"' ∨ c = '\'') := by
  rw [stringForm]
  cases quoting s.toList with
  | basic => exact ⟨_, _, rfl, .inl rfl⟩
  | literal => exact ⟨_, _, rfl, .inr rfl⟩
  | multiBasic => exact ⟨_, _, rfl, .inl rfl⟩
  | multiLiteral => exact ⟨_, _, rfl, .inr rfl⟩

/-- What opens with no bracket is a string, if it opens with a quote, and otherwise a scalar
whose text goes as far as it can. -/
theorem value?_cons {c : Char} (h : c ≠ '[' ∧ c ≠ '\x7b') (fuel depth : Nat) (rest : List Char) :
    value? (fuel + 1) depth (c :: rest) =
      if c = '"' ∨ c = '\'' then
        (string? (c :: rest)).map fun r => (.string (String.ofList r.1), r.2)
      else
        (scalar? (scalarText (c :: rest))).map fun v =>
          (v, (c :: rest).drop (scalarText (c :: rest)).length) := by
  rw [value?]
  · split
    · rfl
    · show (scalar? (scalarText (c :: rest)) >>= _) = _
      cases scalar? (scalarText (c :: rest)) <;> rfl
  · exact fun _ heq => absurd heq h.1
  · exact fun _ heq => absurd heq h.2
  · exact fun _ _ heq => absurd heq h.1
  · exact fun _ _ heq => absurd heq h.2

/-- The text of a scalar goes no further than the end of its line or of its element. -/
theorem scalarText_append {word rest : List Char} (hword : ∀ c ∈ word, isScalarChar c = true)
    (hrest : Ends rest) : scalarText (word ++ rest) = word := by
  obtain ⟨c, more, rfl, hc⟩ := hrest
  have hend : isScalarChar c = false ∧ c ≠ ' ' := by
    simp only [List.mem_cons, List.not_mem_nil, or_false] at hc
    rcases hc with rfl | rfl | rfl <;> decide
  have htake : (word ++ c :: more).takeWhile isScalarChar = word := by
    rw [List.takeWhile_append_of_pos hword, List.takeWhile_cons_of_neg (by simp [hend.1]),
      List.append_nil]
  simp only [scalarText, htake, List.drop_left]
  split
  · next heq => exact absurd (List.cons.inj heq).1 hend.2
  · rfl

/-- A word without quotes reads back as its scalar. -/
theorem value?_word {word : List Char} {v : Toml} (hne : word ≠ [])
    (hword : ∀ c ∈ word, isScalarChar c = true) (hv : scalar? word = some v) (fuel depth : Nat)
    {rest : List Char} (hrest : Ends rest) :
    value? (fuel + 1) depth (word ++ rest) = some (v, rest) := by
  have htext := scalarText_append hword hrest
  obtain ⟨c, cs, rfl⟩ := List.exists_cons_of_ne_nil hne
  have hc := hword c List.mem_cons_self
  rw [List.cons_append] at htext ⊢
  rw [value?_cons, if_neg, htext, hv, ← List.cons_append, Option.map_some, List.drop_left]
  · rintro (rfl | rfl) <;> revert hc <;> decide
  · constructor <;> rintro rfl <;> revert hc <;> decide

/-- A scalar reads back. -/
theorem value?_scalar {v : Toml} (h : Scalar v) (fuel depth : Nat) {rest : List Char}
    (hrest : Ends rest) : value? (fuel + 1) depth (valueForm v ++ rest) = some (v, rest) := by
  cases h with
  | string s =>
    have hread := string?_stringForm s hrest.unquoted
    obtain ⟨c, cs, hs, hc⟩ := exists_cons_stringForm s
    rw [valueForm]
    rw [hs, List.cons_append] at hread ⊢
    rw [value?_cons, if_pos hc, hread, Option.map_some, String.ofList_toList]
    rcases hc with rfl | rfl <;> decide
  | bool b =>
    have hfalse : scalar? "false".toList = some (.bool false) := rfl
    have htrue : scalar? "true".toList = some (.bool true) := rfl
    rw [valueForm]
    cases b with
    | false => exact value?_word (by decide) (List.all_eq_true.1 rfl) hfalse fuel depth hrest
    | true => exact value?_word (by decide) (List.all_eq_true.1 rfl) htrue fuel depth hrest
  | @natural n hn =>
    refine value?_word Nat.toDigits_ne_nil (fun c hc => ?_) (scalar?_decimal hn) fuel depth hrest
    simp [isScalarChar, Char.isAlphanum, isDigit_of_mem_decimal hc]

/-- What a scalar begins with. -/
theorem exists_cons_valueForm {v : Toml} (h : Scalar v) :
    ∃ c cs, valueForm v = c :: cs ∧ Visible c ∧ c ≠ ']' := by
  cases h with
  | string s =>
    obtain ⟨c, cs, hs, hc⟩ := exists_cons_stringForm s
    exact ⟨c, cs, hs, by rcases hc with rfl | rfl <;> decide⟩
  | bool b => cases b <;> exact ⟨_, _, rfl, by decide⟩
  | @natural n hn =>
    obtain ⟨c, cs, hcs⟩ := List.exists_cons_of_ne_nil (Nat.toDigits_ne_nil (n := n) (b := 10))
    have hdigit := isDigit_of_mem_decimal (n := n) (c := c) (by rw [Text.decimal, hcs]; simp)
    refine ⟨c, cs, hcs, fun hc => ?_, ?_⟩
    · simp only [List.mem_cons, List.not_mem_nil, or_false] at hc
      rcases hc with rfl | rfl | rfl | rfl | rfl <;> revert hdigit <;> decide
    · rintro rfl
      revert hdigit
      decide

/-! ## arrays -/

/-- An element and the text behind it. -/
theorem items?_cons {v : Toml} (h : Scalar v) (fuel depth : Nat) {rest : List Char}
    (hrest : Ends rest) :
    items? (fuel + 2) depth (valueForm v ++ rest) =
      match skipAll rest with
      | ',' :: cs => (items? (fuel + 1) depth (skipAll cs)).map fun r => (v :: r.1, r.2)
      | ']' :: cs => some ([v], cs)
      | _ => none := by
  have hread := value?_scalar h fuel depth hrest
  obtain ⟨c, cs, hv, hc⟩ := exists_cons_valueForm h
  rw [hv, List.cons_append] at hread ⊢
  rw [items?, hread]
  · rfl
  · exact fun more heq => hc.2 (List.cons.inj heq).1

/-- Elements on lines of their own read back. -/
theorem items?_elementLines {vs : List Toml} (h : ∀ v ∈ vs, Scalar v) {fuel : Nat}
    (hfuel : vs.length < fuel) (depth : Nat) (rest : List Char) :
    items? fuel depth (skipAll (elementLines vs ++ ']' :: rest)) = some (vs, rest) := by
  induction vs generalizing fuel with
  | nil =>
    obtain ⟨fuel, rfl⟩ : ∃ n, fuel = n + 1 := ⟨fuel - 1, by omega⟩
    rw [elementLines, List.nil_append, skipAll_cons (by decide), items?]
  | cons v vs ih =>
    obtain ⟨fuel, rfl⟩ : ∃ n, fuel = n + 2 := ⟨fuel - 2, by rw [List.length_cons] at hfuel; omega⟩
    have hv := h v List.mem_cons_self
    obtain ⟨c, cs, hform, hc⟩ := exists_cons_valueForm hv
    have hskip : skipAll (elementLines (v :: vs) ++ ']' :: rest) =
        valueForm v ++ ',' :: '\n' :: (elementLines vs ++ ']' :: rest) := by
      rw [elementLines, hform]
      simp only [List.append_assoc, List.cons_append]
      exact skipAll_indent hc.1 _
    rw [hskip, items?_cons hv fuel depth ⟨_, _, rfl, by decide⟩, skipAll_cons (by decide)]
    simp only [skipAll_newline]
    rw [ih (fun w hw => h w (List.mem_cons_of_mem _ hw)) (Nat.lt_of_succ_lt_succ hfuel)]
    rfl

/-- Scalars, and arrays of scalars. -/
inductive Plain : Toml → Prop
  | scalar {v : Toml} (h : Scalar v) : Plain v
  | array {vs : List Toml} (h : ∀ v ∈ vs, Scalar v) : Plain (.array vs)

/-- There are at least as many characters as elements, which is why the fuel lasts. -/
theorem length_le_elementLines (vs : List Toml) : vs.length ≤ (elementLines vs).length := by
  induction vs with
  | nil => exact Nat.le_refl 0
  | cons v vs ih =>
    rw [elementLines]
    simp only [List.length_append, List.length_cons]
    omega

/-- An array goes one level further down. -/
theorem value?_array (fuel depth : Nat) (cs : List Char) :
    value? (fuel + 1) (depth + 1) ('[' :: cs) =
      (items? fuel depth (skipAll cs)).map fun r => (.array r.1, r.2) := by
  rw [value?]

/-- A plain value reads back. -/
theorem value?_valueForm {v : Toml} (h : Plain v) {fuel : Nat}
    (hfuel : (valueForm v).length + 1 < fuel) (depth : Nat) {rest : List Char}
    (hrest : Ends rest) :
    value? fuel (depth + 1) (valueForm v ++ rest) = some (v, rest) := by
  obtain ⟨fuel, rfl⟩ : ∃ n, fuel = n + 1 := ⟨fuel - 1, by omega⟩
  cases h with
  | scalar h => exact value?_scalar h fuel (depth + 1) hrest
  | @array vs h =>
    rw [valueForm.eq_def] at hfuel ⊢
    match vs with
    | [] =>
      obtain ⟨fuel, rfl⟩ : ∃ n, fuel = n + 1 :=
        ⟨fuel - 1, by simp only [List.length_cons] at hfuel; omega⟩
      rw [List.cons_append, value?_array, List.cons_append, skipAll_cons (by decide), items?]
      rfl
    | [v] =>
      obtain ⟨fuel, rfl⟩ : ∃ n, fuel = n + 2 :=
        ⟨fuel - 2, by simp only [List.length_cons, List.length_append] at hfuel; omega⟩
      have hv := h v List.mem_cons_self
      have hskip : skipAll (valueForm v ++ ']' :: rest) = valueForm v ++ ']' :: rest := by
        obtain ⟨c, cs, hform, hc⟩ := exists_cons_valueForm hv
        rw [hform]
        exact skipAll_cons hc.1 _
      rw [List.cons_append, List.append_assoc, List.singleton_append, value?_array, hskip,
        items?_cons hv fuel depth ⟨_, _, rfl, by decide⟩, skipAll_cons (by decide)]
      rfl
    | v :: w :: vs =>
      have hlength := length_le_elementLines (v :: w :: vs)
      simp only [List.length_cons, List.length_append] at hfuel hlength ⊢
      rw [List.cons_append, List.cons_append, List.append_assoc, value?_array, skipAll_newline,
        List.singleton_append, items?_elementLines h (by simp only [List.length_cons]; omega)]
      rfl

end HttpChain.Toml
