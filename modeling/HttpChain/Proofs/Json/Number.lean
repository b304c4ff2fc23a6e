import HttpChain.Json.Reader
import HttpChain.Json.Writer
import HttpChain.Proofs.Text.Decimal
import Mathlib.Data.List.TakeWhile

/-!
# HttpChain.Proofs.Json.Number

Number literals in a text.  A literal is read in stages (`Literal.read?_eq`), each of
which takes as much as it can; so it is read alike whatever follows, as long as that
does not carry it on (`Literal.read?_append`).  Of all literals, an integer is read from
its plain decimal form alone (`Literal.read?_integer_iff`).
-/

namespace HttpChain.Json

open Text

/-- What can follow a number without carrying it on: nothing, or a text that begins with
no digit, point or exponent. -/
def Ends (rest : List Char) : Prop :=
  ∀ c ∈ rest.head?, isDigit c = false ∧ c ≠ '.' ∧ c ≠ 'e' ∧ c ≠ 'E'

theorem Ends.nil : Ends [] := nofun

theorem Ends.cons {c : Char} {cs : List Char}
    (h : isDigit c = false ∧ c ≠ '.' ∧ c ≠ 'e' ∧ c ≠ 'E') : Ends (c :: cs) := by
  intro d hd
  obtain rfl : c = d := by simpa using hd
  exact h

/-- No digit follows a number. -/
theorem Ends.not_digit {rest : List Char} (h : Ends rest) : ∀ c ∈ rest.head?, isDigit c = false :=
  fun c hc => (h c hc).1

/-! ## the stages of a literal -/

/-- The digits at the front of a text, at least one. -/
def digits? (cs : List Char) : Option (List Char × List Char) :=
  if cs.takeWhile isDigit = [] then none
  else some (cs.takeWhile isDigit, cs.drop (cs.takeWhile isDigit).length)

/-- Digits are read as far as they go, if there are any. -/
theorem digits?_eq_some_iff {cs ds rest : List Char} : digits? cs = some (ds, rest) ↔
    cs = ds ++ rest ∧ Digits ds ∧ ∀ c ∈ rest.head?, isDigit c = false := by
  have hdrop : cs.drop (cs.takeWhile isDigit).length = cs.dropWhile isDigit :=
    calc
      cs.drop (cs.takeWhile isDigit).length
        = (cs.takeWhile isDigit ++ cs.dropWhile isDigit).drop (cs.takeWhile isDigit).length := by
          rw [List.takeWhile_append_dropWhile]
      _ = cs.dropWhile isDigit := List.drop_left
  constructor
  · intro h
    rw [digits?, hdrop] at h
    split at h
    · cases h
    · next hne =>
      obtain ⟨rfl, rfl⟩ := Prod.ext_iff.1 (Option.some.inj h)
      refine ⟨List.takeWhile_append_dropWhile.symm, ⟨hne, List.all_takeWhile⟩, fun c hc => ?_⟩
      have hhead := List.head?_dropWhile_not isDigit cs
      rw [Option.mem_def.1 hc] at hhead
      exact hhead
  · intro h
    obtain ⟨rfl, hdigits, hrest⟩ := h
    have hstop : rest.takeWhile isDigit = [] := by
      cases rest with
      | nil => rfl
      | cons c rest => exact List.takeWhile_cons_of_neg (by simp [hrest c rfl])
    have htake : (ds ++ rest).takeWhile isDigit = ds := by
      rw [List.takeWhile_append_of_pos (List.all_eq_true.1 hdigits.2), hstop, List.append_nil]
    rw [digits?, htake, if_neg hdigits.1, List.drop_left]

/-- Digits are taken alike whatever follows, as long as it does not carry them on. -/
theorem digits?_append {cs ds more rest : List Char} (h : digits? cs = some (ds, more))
    (hrest : ∀ c ∈ rest.head?, isDigit c = false) :
    digits? (cs ++ rest) = some (ds, more ++ rest) := by
  obtain ⟨rfl, hdigits, hmore⟩ := digits?_eq_some_iff.1 h
  refine digits?_eq_some_iff.2 ⟨List.append_assoc .., hdigits, fun c hc => ?_⟩
  cases more with
  | nil => exact hrest c hc
  | cons d more => exact hmore c (by simpa using hc)

namespace Literal

/-- Whether a minus stands at the front, and what follows it. -/
def sign : List Char → Bool × List Char
  | '-' :: cs => (true, cs)
  | cs => (false, cs)

/-- The digits before the point, without a superfluous zero. -/
def whole? (cs : List Char) : Option (List Char × List Char) :=
  (digits? cs).bind fun w =>
    if 1 < w.1.length ∧ w.1.head? = some '0' then none else some w

/-- A fraction at the front of a text, if there is a point. -/
def fraction? : List Char → Option (Option (List Char) × List Char)
  | '.' :: cs => (digits? cs).map fun (ds, rest) => (some ds, rest)
  | cs => some (none, cs)

/-- The direction of an exponent: up, unless there is a minus. -/
def direction : List Char → Bool × List Char
  | '+' :: cs => (true, cs)
  | '-' :: cs => (false, cs)
  | cs => (true, cs)

/-- An exponent at the front of a text, if its letter is there. -/
def exponent? : List Char → Option (Option (Bool × List Char) × List Char)
  | c :: cs =>
    if c = 'e' ∨ c = 'E' then
      (digits? (direction cs).2).map fun (ds, rest) => (some ((direction cs).1, ds), rest)
    else some (none, c :: cs)
  | [] => some (none, [])

/-- A fraction is all digits behind a point; a point without any is refused. -/
theorem fraction?_eq (cs : List Char) : fraction? cs = match cs with
    | '.' :: cs =>
      if cs.takeWhile isDigit = [] then none
      else some (some (cs.takeWhile isDigit), cs.drop (cs.takeWhile isDigit).length)
    | cs => some (none, cs) := by
  unfold fraction? digits?
  split
  · split <;> rfl
  · rfl

/-- An exponent is its letter, its sign if there is one and all digits behind it. -/
theorem map_exponent? (negative : Bool) (w : List Char) (f : Option (List Char))
    (cs : List Char) :
    (exponent? cs).map (fun e => ((⟨negative, w, f, e.1⟩ : Literal), e.2)) = match cs with
      | c :: cs' =>
        if c = 'e' ∨ c = 'E' then
          if (direction cs').2.takeWhile isDigit = [] then none
          else some (⟨negative, w, f, some ((direction cs').1, (direction cs').2.takeWhile isDigit)⟩,
            (direction cs').2.drop ((direction cs').2.takeWhile isDigit).length)
        else some (⟨negative, w, f, none⟩, cs)
      | [] => some (⟨negative, w, f, none⟩, []) := by
  unfold exponent? digits?
  split
  · split
    · split <;> rfl
    · rfl
  · rfl

/-- A literal is read in stages. -/
theorem read?_eq (cs : List Char) : read? cs =
    (whole? (sign cs).2).bind fun w => (fraction? w.2).bind fun f =>
      (exponent? f.2).map fun e => (⟨(sign cs).1, w.1, f.1, e.1⟩, e.2) := by
  have hread : read? cs = if (sign cs).2.takeWhile isDigit = [] ∨
        (1 < ((sign cs).2.takeWhile isDigit).length ∧
          ((sign cs).2.takeWhile isDigit).head? = some '0') then none
      else (fraction? ((sign cs).2.drop ((sign cs).2.takeWhile isDigit).length)).bind fun f =>
        (exponent? f.2).map fun e =>
          (⟨(sign cs).1, (sign cs).2.takeWhile isDigit, f.1, e.1⟩, e.2) := by
    simp only [fraction?_eq, map_exponent?]
    rfl
  rw [hread, whole?, digits?]
  by_cases hds : (sign cs).2.takeWhile isDigit = []
  · simp [hds]
  · by_cases hzero : 1 < ((sign cs).2.takeWhile isDigit).length ∧
        ((sign cs).2.takeWhile isDigit).head? = some '0'
    · rw [if_pos (.inr hzero), if_neg hds, Option.bind_some, if_pos hzero, Option.bind_none]
    · rw [if_neg (not_or.2 ⟨hds, hzero⟩), if_neg hds, Option.bind_some, if_neg hzero,
        Option.bind_some]

/-! ## what follows a literal -/

section Append

variable {cs more rest : List Char}

theorem sign_append (h : cs ≠ []) (rest : List Char) :
    sign (cs ++ rest) = ((sign cs).1, (sign cs).2 ++ rest) := by
  cases cs with
  | nil => exact absurd rfl h
  | cons c cs => by_cases hc : c = '-' <;> simp [sign, hc]

theorem direction_append (h : cs ≠ []) (rest : List Char) :
    direction (cs ++ rest) = ((direction cs).1, (direction cs).2 ++ rest) := by
  cases cs with
  | nil => exact absurd rfl h
  | cons c cs =>
    by_cases hplus : c = '+'
    · simp [direction, hplus]
    · by_cases hminus : c = '-' <;> simp [direction, hplus, hminus]

/-- What follows a number is no part of its digits. -/
theorem whole?_append {ds : List Char} (h : whole? cs = some (ds, more)) (hrest : Ends rest) :
    whole? (cs ++ rest) = some (ds, more ++ rest) := by
  obtain ⟨w, hw, hzero⟩ := Option.bind_eq_some_iff.1 h
  split at hzero
  · cases hzero
  · next hfit =>
    obtain rfl : w = (ds, more) := Option.some.inj hzero
    rw [whole?, digits?_append hw hrest.not_digit, Option.bind_some, if_neg hfit]

/-- There is no fraction without a point. -/
theorem fraction?_of_not_point (h : ∀ c ∈ cs.head?, c ≠ '.') :
    fraction? cs = some (none, cs) := by
  unfold fraction?
  split
  · exact absurd rfl (h '.' rfl)
  · rfl

/-- What follows a number is no part of its fraction. -/
theorem fraction?_append {f : Option (List Char)} (h : fraction? cs = some (f, more))
    (hrest : Ends rest) : fraction? (cs ++ rest) = some (f, more ++ rest) := by
  cases cs with
  | nil =>
    cases h
    exact fraction?_of_not_point fun c hc => (hrest c hc).2.1
  | cons c cs =>
    by_cases hc : c = '.'
    · subst hc
      obtain ⟨d, hd, heq⟩ := Option.map_eq_some_iff.1 h
      obtain ⟨rfl, rfl⟩ := Prod.ext_iff.1 heq
      rw [List.cons_append, fraction?, digits?_append hd hrest.not_digit]
      rfl
    · have hpoint (ds : List Char) : ∀ d ∈ (c :: ds).head?, d ≠ '.' := by simpa using hc
      rw [fraction?_of_not_point (hpoint cs)] at h
      cases h
      exact fraction?_of_not_point (hpoint (cs ++ rest))

/-- What follows a number is no part of its exponent. -/
theorem exponent?_append {e : Option (Bool × List Char)} (h : exponent? cs = some (e, more))
    (hrest : Ends rest) : exponent? (cs ++ rest) = some (e, more ++ rest) := by
  cases cs with
  | nil =>
    cases h
    cases rest with
    | nil => rfl
    | cons c rest => exact if_neg (not_or.2 (hrest c rfl).2.2)
  | cons c cs =>
    rw [exponent?] at h
    rw [List.cons_append, exponent?]
    split
    · next hletter =>
      rw [if_pos hletter] at h
      obtain ⟨d, hd, heq⟩ := Option.map_eq_some_iff.1 h
      obtain ⟨rfl, rfl⟩ := Prod.ext_iff.1 heq
      have hne : cs ≠ [] := fun hnil => by
        rw [hnil] at hd
        cases hd
      rw [direction_append hne, digits?_append hd hrest.not_digit]
      rfl
    · next hletter =>
      rw [if_neg hletter] at h
      cases h
      rfl

/-- A literal is read alike whatever follows, as long as that does not carry it on. -/
theorem read?_append {l : Literal} (h : read? cs = some (l, more)) (hrest : Ends rest) :
    read? (cs ++ rest) = some (l, more ++ rest) := by
  rw [read?_eq] at h
  obtain ⟨w, hw, h⟩ := Option.bind_eq_some_iff.1 h
  obtain ⟨f, hf, h⟩ := Option.bind_eq_some_iff.1 h
  obtain ⟨e, he, heq⟩ := Option.map_eq_some_iff.1 h
  obtain ⟨rfl, rfl⟩ := Prod.ext_iff.1 heq
  have hne : cs ≠ [] := fun hnil => by
    rw [hnil] at hw
    cases hw
  rw [read?_eq, sign_append hne, whole?_append hw hrest, Option.bind_some,
    fraction?_append hf hrest, Option.bind_some, exponent?_append he hrest]
  rfl

end Append

/-! ## integers -/

/-- The number that digits denote behind a number already gathered. -/
def carry (n : Nat) (ds : List Char) : Nat := ds.foldl (fun n c => n * 10 + (c.toNat - 48)) n

theorem carry_zero (ds : List Char) : carry 0 ds = decimalValue ds := by
  simp only [carry, decimalValue, valueInBase, List.foldl_map, Nat.mul_comm]

/-- Gathering digits never makes a number smaller. -/
theorem le_carry (n : Nat) (ds : List Char) : n ≤ carry n ds := by
  induction ds generalizing n with
  | nil => exact Nat.le_refl n
  | cons c ds ih =>
    have hrest := ih (n * 10 + (c.toNat - 48))
    exact Nat.le_trans (by omega) hrest

/-- Digits that fit the word are all gathered, and the point stays. -/
theorem whole_of_fits {g : Gathered} {ds : List Char}
    (h : carry g.word ds < 0x10000000000000000) : g.whole ds = ⟨carry g.word ds, g.shift⟩ := by
  induction ds generalizing g with
  | nil => rfl
  | cons c ds ih =>
    have hroom : g.room c = true :=
      decide_eq_true (Nat.lt_of_le_of_lt (le_carry _ ds) h)
    rw [Gathered.whole, if_pos hroom]
    exact ih h

/-- Digits that do not fit the word move the point. -/
theorem shift_whole_of_not_fits {g : Gathered} {ds : List Char}
    (hword : g.word < 0x10000000000000000) (h : 0x10000000000000000 ≤ carry g.word ds) :
    g.shift < (g.whole ds).shift := by
  induction ds generalizing g with
  | nil => exact absurd hword (Nat.not_lt.2 h)
  | cons c ds ih =>
    rw [Gathered.whole]
    split
    · next hroom => exact ih (of_decide_eq_true hroom) h
    · show g.shift < g.shift + (ds.length + 1)
      omega

/-- The float of a literal whose digits are gathered. -/
def float? (l : Literal) (g : Gathered) : Option Json :=
  match l.exponent with
  | none => (scale? l.negative g.word g.shift).map .float
  | some (up, digits) =>
    match readExponent? digits with
    | none => if g.word ≠ 0 ∧ up then none else some (.float (Binary64.zero l.negative))
    | some e => (scale? l.negative g.word (if up then g.shift + e else g.shift - e)).map .float

/-- A number is a float if it has a fraction or an exponent or does not fit, and else an
integer. -/
theorem value?_eq (l : Literal) : l.value? =
    match l.fraction with
    | some digits => l.float? ((Gathered.whole ⟨0, 0⟩ l.whole).fraction digits)
    | none =>
      let g := Gathered.whole ⟨0, 0⟩ l.whole
      if l.exponent.isSome || g.shift ≠ 0 then l.float? g
      else if l.negative then
        if g.word = 0 || 0x8000000000000000 < g.word then (scale? true g.word 0).map .float
        else ofInt? (-g.word)
      else ofInt? g.word := rfl

theorem map_float_ne_integer (x : Option Binary64) (n : WordInt) :
    x.map Json.float ≠ some (.integer n) := by
  cases x <;> simp

/-- No float is read as an integer. -/
theorem float?_ne_integer (l : Literal) (g : Gathered) (n : WordInt) :
    l.float? g ≠ some (.integer n) := by
  unfold float?
  split
  · exact map_float_ne_integer _ n
  · split
    · split <;> simp
    · exact map_float_ne_integer _ n

/-- An integer that is kept is the one it is made of. -/
theorem ofInt?_eq_some_iff {m : Int} {n : WordInt} : ofInt? m = some (.integer n) ↔ n.val = m := by
  unfold ofInt?
  split
  · rw [Option.some.injEq, Json.integer.injEq, WordInt.mk.injEq, eq_comm]
  · next h =>
    refine ⟨nofun, fun heq => absurd n.fits ?_⟩
    rwa [heq]

/-- The value of a literal is an integer if it has neither a fraction nor an exponent and
its digits denote it; a minus is for what is less than zero. -/
theorem value?_eq_integer_iff {l : Literal} {n : WordInt} : l.value? = some (.integer n) ↔
    l.fraction = none ∧ l.exponent = none ∧
      if l.negative then 0 < decimalValue l.whole ∧ n.val = -decimalValue l.whole
      else n.val = decimalValue l.whole := by
  rw [value?_eq]
  cases hfraction : l.fraction with
  | some digits => simp [float?_ne_integer]
  | none =>
    cases hexponent : l.exponent with
    | some e => simp [float?_ne_integer]
    | none =>
      have hfits := n.fits
      by_cases hword : decimalValue l.whole < 0x10000000000000000
      · rw [whole_of_fits (by rwa [carry_zero]), carry_zero]
        simp only [Option.isSome_none, ne_eq, not_true, decide_false, Bool.or_self,
          Bool.false_eq_true, if_false, true_and]
        split
        · split
          · next hout =>
            simp only [Bool.or_eq_true, decide_eq_true_eq] at hout
            exact iff_of_false (map_float_ne_integer _ n) (by omega)
          · next hin =>
            simp only [Bool.or_eq_true, decide_eq_true_eq, not_or] at hin
            rw [ofInt?_eq_some_iff]
            exact (and_iff_right (Nat.pos_of_ne_zero hin.1)).symm
        · exact ofInt?_eq_some_iff
      · have hshift : (0 : Int) < (Gathered.whole ⟨0, 0⟩ l.whole).shift :=
          shift_whole_of_not_fits (by decide) (by rw [carry_zero]; omega)
        have hmoved : (Gathered.whole ⟨0, 0⟩ l.whole).shift ≠ 0 := by omega
        simp only [Option.isSome_none, hmoved, ne_eq, not_false_eq_true, decide_true, Bool.or_true,
          if_true, true_and]
        refine iff_of_false (float?_ne_integer l _ n) ?_
        split <;> omega

/-- A text is its sign and what stands behind it. -/
theorem eq_sign (cs : List Char) :
    cs = (if (sign cs).1 then ['-'] else []) ++ (sign cs).2 := by
  unfold sign
  split <;> rfl

theorem sign_of_digits {ds : List Char} (h : Digits ds) (rest : List Char) :
    sign (ds ++ rest) = (false, ds ++ rest) := by
  cases ds with
  | nil => exact absurd rfl h.1
  | cons d ds => simp [sign, h.not_cons.2]

/-- The digits ahead of a point are all that there are, without a zero in front of others.
-/
theorem whole?_eq_some_iff {cs ds rest : List Char} : whole? cs = some (ds, rest) ↔
    (cs = ds ++ rest ∧ Digits ds ∧ ∀ c ∈ rest.head?, isDigit c = false) ∧
      ¬ (1 < ds.length ∧ ds.head? = some '0') := by
  rw [← digits?_eq_some_iff, whole?, Option.bind_eq_some_iff]
  constructor
  · intro h
    obtain ⟨w, hw, hfit⟩ := h
    split at hfit
    · cases hfit
    · next hzero =>
      obtain rfl : w = (ds, rest) := Option.some.inj hfit
      exact ⟨hw, hzero⟩
  · intro h
    exact ⟨_, h.1, if_neg h.2⟩

/-- There is no fraction exactly if no point follows. -/
theorem fraction?_eq_none_iff {cs rest : List Char} : fraction? cs = some (none, rest) ↔
    cs = rest ∧ ∀ c ∈ rest.head?, c ≠ '.' := by
  constructor
  · intro h
    unfold fraction? at h
    split at h
    · obtain ⟨d, -, hd⟩ := Option.map_eq_some_iff.1 h
      cases hd
    · next hpoint =>
      obtain rfl : cs = rest := by simpa using h
      refine ⟨rfl, fun c hc hdot => ?_⟩
      cases cs with
      | nil => cases hc
      | cons d cs =>
        obtain rfl : d = c := by simpa using hc
        exact hpoint cs (by rw [hdot])
  · intro h
    obtain ⟨rfl, hpoint⟩ := h
    exact fraction?_of_not_point hpoint

/-- There is no exponent exactly if no letter of one follows. -/
theorem exponent?_eq_none_iff {cs rest : List Char} : exponent? cs = some (none, rest) ↔
    cs = rest ∧ ∀ c ∈ rest.head?, ¬ (c = 'e' ∨ c = 'E') := by
  cases cs with
  | nil =>
    constructor
    · intro h
      cases h
      exact ⟨rfl, nofun⟩
    · intro h
      obtain ⟨rfl, -⟩ := h
      rfl
  | cons c cs =>
    rw [exponent?]
    split
    · next hletter =>
      refine iff_of_false (fun h => ?_) (fun h => ?_)
      · obtain ⟨d, -, hd⟩ := Option.map_eq_some_iff.1 h
        cases hd
      · obtain ⟨rfl, hnot⟩ := h
        exact hnot c rfl hletter
    · next hletter =>
      constructor
      · intro h
        cases h
        exact ⟨rfl, by simpa using hletter⟩
      · intro h
        rw [h.1]

/-- The literals of digits alone, behind a minus or none. -/
theorem read?_plain_iff {cs ds rest : List Char} {negative : Bool} :
    read? cs = some (⟨negative, ds, none, none⟩, rest) ↔
      cs = (if negative then ['-'] else []) ++ (ds ++ rest) ∧ Digits ds ∧
        ¬ (1 < ds.length ∧ ds.head? = some '0') ∧ Ends rest := by
  constructor
  · intro h
    rw [read?_eq] at h
    obtain ⟨⟨ds', more⟩, hw, h⟩ := Option.bind_eq_some_iff.1 h
    obtain ⟨⟨f, more'⟩, hf, h⟩ := Option.bind_eq_some_iff.1 h
    obtain ⟨⟨e, more''⟩, he, heq⟩ := Option.map_eq_some_iff.1 h
    obtain ⟨hliteral, rfl⟩ := Prod.ext_iff.1 heq
    obtain ⟨hsign, rfl, rfl, rfl⟩ := Literal.mk.inj hliteral
    obtain ⟨rfl, hpoint⟩ := fraction?_eq_none_iff.1 hf
    obtain ⟨rfl, hletter⟩ := exponent?_eq_none_iff.1 he
    obtain ⟨⟨hcs, hdigits, hend⟩, hzero⟩ := whole?_eq_some_iff.1 hw
    refine ⟨?_, hdigits, hzero, fun c hc => ⟨hend c hc, hpoint c hc, not_or.1 (hletter c hc)⟩⟩
    rw [← hcs, ← hsign]
    exact eq_sign cs
  · intro h
    obtain ⟨rfl, hdigits, hzero, hrest⟩ := h
    have hsign : sign ((if negative then ['-'] else []) ++ (ds ++ rest)) = (negative, ds ++ rest) := by
      cases negative with
      | true => rfl
      | false => exact sign_of_digits hdigits rest
    have hwhole : whole? (ds ++ rest) = some (ds, rest) :=
      whole?_eq_some_iff.2 ⟨⟨rfl, hdigits, hrest.not_digit⟩, hzero⟩
    have hfraction : fraction? rest = some (none, rest) :=
      fraction?_eq_none_iff.2 ⟨rfl, fun c hc => (hrest c hc).2.1⟩
    have hexponent : exponent? rest = some (none, rest) :=
      exponent?_eq_none_iff.2 ⟨rfl, fun c hc => not_or.2 (hrest c hc).2.2⟩
    rw [read?_eq, hsign, hwhole, Option.bind_some, hfraction, Option.bind_some, hexponent]
    rfl

/-- A literal opens with a minus or a digit. -/
theorem exists_cons_of_read? {cs rest : List Char} {l : Literal} (h : read? cs = some (l, rest)) :
    ∃ c more, cs = c :: more ∧ (c = '-' ∨ isDigit c = true) := by
  rw [read?_eq] at h
  obtain ⟨⟨ds, more⟩, hw, -⟩ := Option.bind_eq_some_iff.1 h
  obtain ⟨⟨hcs, hdigits, -⟩, -⟩ := whole?_eq_some_iff.1 hw
  obtain ⟨d, ds', rfl⟩ := List.exists_cons_of_ne_nil hdigits.1
  have hall : isDigit d = true ∧ ds'.all isDigit = true := by simpa using hdigits.2
  have hsign := eq_sign cs
  rw [hcs] at hsign
  split at hsign
  · exact ⟨'-', _, hsign, .inl rfl⟩
  · exact ⟨d, _, hsign, .inr hall.1⟩

theorem fraction?_suffix {cs rest : List Char} {f : Option (List Char)}
    (h : fraction? cs = some (f, rest)) : rest <:+ cs := by
  unfold fraction? at h
  split at h
  · obtain ⟨⟨ds, more⟩, hd, heq⟩ := Option.map_eq_some_iff.1 h
    obtain ⟨rfl, rfl⟩ := Prod.mk.inj heq
    obtain ⟨rfl, -⟩ := digits?_eq_some_iff.1 hd
    exact (List.suffix_append ds more).trans (List.suffix_cons _ _)
  · cases h
    exact List.suffix_rfl

theorem direction_suffix (cs : List Char) : (direction cs).2 <:+ cs := by
  unfold direction
  split
  · exact List.suffix_cons _ _
  · exact List.suffix_cons _ _
  · exact List.suffix_rfl

theorem exponent?_suffix {cs rest : List Char} {e : Option (Bool × List Char)}
    (h : exponent? cs = some (e, rest)) : rest <:+ cs := by
  cases cs with
  | nil =>
    cases h
    exact List.suffix_rfl
  | cons c cs =>
    rw [exponent?] at h
    split at h
    · obtain ⟨⟨ds, more⟩, hd, heq⟩ := Option.map_eq_some_iff.1 h
      obtain ⟨rfl, rfl⟩ := Prod.mk.inj heq
      obtain ⟨hcs, -⟩ := digits?_eq_some_iff.1 hd
      exact ((hcs ▸ List.suffix_append ds more).trans (direction_suffix cs)).trans
        (List.suffix_cons _ _)
    · cases h
      exact List.suffix_rfl

/-- What follows a literal is the end of the text. -/
theorem read?_suffix {cs rest : List Char} {l : Literal} (h : read? cs = some (l, rest)) :
    rest <:+ cs := by
  rw [read?_eq] at h
  obtain ⟨⟨ds, more⟩, hw, h⟩ := Option.bind_eq_some_iff.1 h
  obtain ⟨⟨f, more'⟩, hf, h⟩ := Option.bind_eq_some_iff.1 h
  obtain ⟨⟨e, more''⟩, he, heq⟩ := Option.map_eq_some_iff.1 h
  obtain ⟨-, rfl⟩ := Prod.mk.inj heq
  obtain ⟨⟨hcs, -⟩, -⟩ := whole?_eq_some_iff.1 hw
  have hsign : (sign cs).2 <:+ cs := ⟨_, (eq_sign cs).symm⟩
  exact (((exponent?_suffix he).trans (fraction?_suffix hf)).trans
    (hcs ▸ List.suffix_append ds more)).trans hsign

/-- A literal with the value of an integer stands at the front of a text exactly if the
plain decimal form of the integer does, and what follows does not carry it on. -/
theorem read?_integer_iff {cs rest : List Char} {n : WordInt} :
    (∃ l, read? cs = some (l, rest) ∧ l.value? = some (.integer n)) ↔
      cs = signedDecimal n.val ++ rest ∧ Ends rest := by
  constructor
  · intro h
    obtain ⟨⟨negative, ds, f, e⟩, hl, hvalue⟩ := h
    obtain ⟨rfl, rfl, hn⟩ := value?_eq_integer_iff.1 hvalue
    obtain ⟨rfl, hdigits, hzero, hrest⟩ := read?_plain_iff.1 hl
    refine ⟨?_, hrest⟩
    rw [← List.append_assoc]
    refine congrArg (· ++ rest) ?_
    cases negative with
    | true => rw [hn.2, signedDecimal_neg hn.1, decimal_decimalValue hdigits hzero]; rfl
    | false =>
      rw [show n.val = decimalValue ds from hn, signedDecimal_natCast,
        decimal_decimalValue hdigits hzero]
      rfl
  · intro h
    obtain ⟨rfl, hrest⟩ := h
    obtain ⟨negative, m, hform, hvalue⟩ : ∃ negative m,
        signedDecimal n.val = (if negative then ['-'] else []) ++ decimal m ∧
          if negative = true then 0 < m ∧ n.val = -m else n.val = m := by
      cases h : n.val with
      | ofNat m => exact ⟨false, m, rfl, rfl⟩
      | negSucc m => exact ⟨true, m + 1, rfl, Nat.succ_pos m, rfl⟩
    refine ⟨⟨negative, decimal m, none, none⟩, read?_plain_iff.2 ⟨?_, digits_decimal m,
      not_superfluous_decimal m, hrest⟩, value?_eq_integer_iff.2 ⟨rfl, rfl, ?_⟩⟩
    · rw [hform, List.append_assoc]
    · rwa [decimalValue_decimal]

end Literal

/-! ## numbers as values -/

section Value

variable {fuel depth : Nat} {cs rest : List Char} {c : Char}

/-- Behind a minus or a digit at the front, a value is that of a literal. -/
theorem value?_of_number (hcs : skipSpace cs = c :: rest) (hc : c = '-' ∨ isDigit c = true) :
    value? (fuel + 1) depth cs =
      (Literal.read? (c :: rest)).bind fun l => l.1.value?.map fun v => (v, l.2) := by
  rw [value?, hcs]
  split
  · next heq => cases heq; exact absurd hc (by decide)
  · next heq => cases heq; exact absurd hc (by decide)
  · next heq => cases heq; exact absurd hc (by decide)
  · next heq =>
    cases heq
    rw [if_pos hc]
    cases Literal.read? (c :: rest) with
    | none => rfl
    | some l =>
      obtain ⟨l, rest⟩ := l
      simp only [Option.bind_eq_bind, Option.bind_some]
      cases l.value? <;> rfl
  · next heq => cases heq

/-- No word is read as an integer. -/
theorem keyword?_ne_integer (cs rest : List Char) (n : WordInt) :
    keyword? cs ≠ some (.integer n, rest) := by
  unfold keyword?
  split <;> simp

/-- An integer is written with a sign or a digit in front. -/
theorem head?_signedDecimal (n : Int) : ∃ c cs, signedDecimal n = c :: cs ∧
    (c = '-' ∨ isDigit c = true) := by
  cases n with
  | ofNat m =>
    have hdigits := digits_decimal m
    obtain ⟨c, cs, hcs⟩ := List.exists_cons_of_ne_nil hdigits.1
    rw [hcs] at hdigits
    have hall : isDigit c = true ∧ cs.all isDigit = true := by simpa using hdigits.2
    exact ⟨c, cs, hcs, .inr hall.1⟩
  | negSucc m => exact ⟨'-', decimal (m + 1), rfl, .inl rfl⟩

/-- Wherever a value is read, it is an integer exactly if the plain decimal form of the
integer stands there, behind blanks or none, and what follows does not carry it on. -/
theorem value?_integer_iff {n : WordInt} :
    value? (fuel + 1) depth cs = some (.integer n, rest) ↔
      skipSpace cs = signedDecimal n.val ++ rest ∧ Ends rest := by
  constructor
  · intro h
    by_cases hnumber : ∃ c more, skipSpace cs = c :: more ∧ (c = '-' ∨ isDigit c = true)
    · obtain ⟨c, more, hcs, hc⟩ := hnumber
      rw [value?_of_number hcs hc] at h
      obtain ⟨⟨l, rest'⟩, hl, h⟩ := Option.bind_eq_some_iff.1 h
      obtain ⟨v, hv, heq⟩ := Option.map_eq_some_iff.1 h
      obtain ⟨rfl, rfl⟩ := Prod.mk.inj heq
      rw [hcs]
      exact Literal.read?_integer_iff.1 ⟨l, hl, hv⟩
    · rw [value?] at h
      split at h
      · simp at h
      · split at h
        · cases h
        · split at h <;> simp at h
      · split at h
        · cases h
        · split at h <;> simp at h
      · next hcs =>
        rw [if_neg fun hc => hnumber ⟨_, _, hcs, hc⟩] at h
        exact absurd h (keyword?_ne_integer _ _ n)
      · cases h
  · intro h
    obtain ⟨hcs, hrest⟩ := h
    obtain ⟨l, hl, hvalue⟩ := Literal.read?_integer_iff.2 ⟨rfl, hrest⟩
    obtain ⟨c, ds, hform, hc⟩ := head?_signedDecimal n.val
    rw [hform, List.cons_append] at hcs hl
    rw [value?_of_number hcs hc, hl, Option.bind_some, hvalue]
    rfl

end Value

end HttpChain.Json
