import HttpChain.Toml.Reader
import HttpChain.Toml.Writer
import Mathlib.Tactic.SplitIfs

/-!
# HttpChain.Proofs.Toml.Strings

Strings and keys as they are written and read.  Whatever its characters, a
string reads back from the quotes that it takes (`string?_stringForm`), and so
does a key (`key?_keyForm`), up to the text that follows.
-/

namespace HttpChain.Toml

/-! ## escapes -/

/-- A character below 256 is read from its number in four digits. -/
theorem codePoint?_upperHex {n : Nat} (h : n < 256) (cs : List Char) :
    codePoint? 4 ('0' :: '0' :: Text.upperHex (n / 16) :: Text.upperHex (n % 16) :: cs) =
      some (Char.ofNat n, cs) := by
  have hzero : Text.hexValue? '0' = some 0 := rfl
  have hhigh := Text.hexValue?_upperHex (n / 16) (by omega)
  have hlow := Text.hexValue?_upperHex (n % 16) (by omega)
  have hvalue : Text.valueInBase 16 [0, 0, n / 16, n % 16] = n := by
    simp only [Text.valueInBase, List.foldl_cons, List.foldl_nil]
    omega
  simp [codePoint?, hzero, hhigh, hlow, hvalue, show n < 0xD800 by omega]

/-- What needs no escape can be read as it is, a line end apart. -/
theorem isPrintable_of_not_needsEscape {c : Char} (h : needsEscape c = false) (hn : c ≠ '\n') :
    isPrintable c = true := by
  simp only [needsEscape, Bool.or_eq_false_iff, Bool.and_eq_false_iff, decide_eq_false_iff_not,
    beq_eq_false_iff_ne] at h
  simp only [isPrintable, Bool.or_eq_true, beq_iff_eq]
  grind

/-- A character stands for itself, or is the one that its escape names. -/
theorem escaped_cases (c : Char) :
    (escaped c = [c] ∧ c ∉ ['"', '\\', '\n', '\r'] ∧ isPrintable c = true) ∨
      ∃ e more, escaped c = '\\' :: e :: more ∧ e ∉ [' ', '\t', '\n', '\r'] ∧
        ∀ rest, escape? (e :: (more ++ rest)) = some (c, rest) := by
  rw [escaped]
  split_ifs with h8 ht hn hf hr hq hb hc
  · exact .inr ⟨_, _, rfl, by decide, fun rest => by rw [h8]; rfl⟩
  · exact .inr ⟨_, _, rfl, by decide, fun rest => by rw [ht]; rfl⟩
  · exact .inr ⟨_, _, rfl, by decide, fun rest => by rw [hn]; rfl⟩
  · exact .inr ⟨_, _, rfl, by decide, fun rest => by rw [hf]; rfl⟩
  · exact .inr ⟨_, _, rfl, by decide, fun rest => by rw [hr]; rfl⟩
  · exact .inr ⟨_, _, rfl, by decide, fun rest => by rw [hq]; rfl⟩
  · exact .inr ⟨_, _, rfl, by decide, fun rest => by rw [hb]; rfl⟩
  · have hlt : c.toNat < 256 := by
      simp only [needsEscape, Bool.or_eq_true, Bool.and_eq_true, decide_eq_true_eq,
        beq_iff_eq] at hc
      omega
    refine .inr ⟨_, _, rfl, by decide, fun rest => ?_⟩
    have hcode := codePoint?_upperHex hlt rest
    rw [Char.ofNat_toNat] at hcode
    exact hcode
  · have hprintable := isPrintable_of_not_needsEscape (Bool.eq_false_iff.2 hc) hn
    exact .inl ⟨rfl, by simp [hn, hr, hq, hb], hprintable⟩

theorem length_pos_escaped (c : Char) : 0 < (escaped c).length := by
  rcases escaped_cases c with ⟨h, -, -⟩ | ⟨e, more, h, -, -⟩ <;> rw [h] <;> simp

/-! ## strings on one line -/

/-- A character between basic quotes is read from the form in which it is written. -/
theorem basic?_escaped (c : Char) (fuel : Nat) (rest : List Char) :
    basic? (fuel + 1) (escaped c ++ rest) = (basic? fuel rest).map fun r => (c :: r.1, r.2) := by
  rcases escaped_cases c with ⟨h, hc, hprintable⟩ | ⟨e, more, h, -, hescape⟩
  · simp only [List.mem_cons, not_or] at hc
    rw [h, List.singleton_append, basic?, if_neg hc.1, if_neg hc.2.1, if_pos hprintable]
    cases basic? fuel rest <;> rfl
  · have hname := hescape rest
    rw [h, List.cons_append, List.cons_append, basic?, if_neg (by decide), if_pos rfl, hname]
    show (basic? fuel rest >>= _) = _
    cases basic? fuel rest <;> rfl

/-- A basic string reads back. -/
theorem basic?_flatMap_escaped {cs : List Char} {fuel : Nat} (h : cs.length < fuel)
    (rest : List Char) : basic? fuel (cs.flatMap escaped ++ '"' :: rest) = some (cs, rest) := by
  induction cs generalizing fuel with
  | nil =>
    cases fuel with
    | zero => simp at h
    | succ fuel => simp [basic?]
  | cons c cs ih =>
    cases fuel with
    | zero => simp at h
    | succ fuel =>
      rw [List.flatMap_cons, List.append_assoc, basic?_escaped, ih (Nat.lt_of_succ_lt_succ h)]
      rfl

/-- Escaping makes no text shorter, which is why the fuel lasts. -/
theorem length_le_flatMap_escaped (cs : List Char) : cs.length ≤ (cs.flatMap escaped).length := by
  induction cs with
  | nil => exact Nat.le_refl 0
  | cons c cs ih =>
    have hpos := length_pos_escaped c
    rw [List.flatMap_cons, List.length_append, List.length_cons]
    omega

/-- A literal string reads back. -/
theorem literal?_append {cs : List Char} (h : ∀ c ∈ cs, c ≠ '\'' ∧ isPrintable c = true)
    (rest : List Char) : literal? (cs ++ '\'' :: rest) = some (cs, rest) := by
  have hbody : (cs ++ '\'' :: rest).takeWhile (fun c => c ≠ '\'' && isPrintable c) = cs := by
    rw [List.takeWhile_append_of_pos, List.takeWhile_cons_of_neg (by simp), List.append_nil]
    simpa using h
  simp only [literal?, hbody, List.drop_left]

/-! ## strings of several lines -/

/-- How often a character stands at the front of a text. -/
def lead (quote : Char) (cs : List Char) : Nat := (cs.takeWhile (· == quote)).length

theorem lead_cons_self (quote : Char) (cs : List Char) :
    lead quote (quote :: cs) = lead quote cs + 1 := by
  simp [lead]

theorem lead_cons_of_ne {quote c : Char} (h : c ≠ quote) (cs : List Char) :
    lead quote (c :: cs) = 0 := by
  simp [lead, h]

/-- The quotes in front of a text are counted in it if it holds anything else. -/
theorem lead_append {quote : Char} {cs : List Char} (h : ¬ ∀ c ∈ cs, c = quote) (rest : List Char) :
    lead quote (cs ++ rest) = lead quote cs := by
  induction cs with
  | nil => simp at h
  | cons c cs ih =>
    by_cases hc : c = quote
    · subst hc
      rw [List.cons_append, lead_cons_self, lead_cons_self, ih (by simpa using h)]
    · rw [List.cons_append, lead_cons_of_ne hc, lead_cons_of_ne hc]

/-- Fewer than three quotes do not close a text of several lines. -/
theorem closing?_of_lead_lt {quote : Char} {cs : List Char} (h : lead quote cs < 3) :
    closing? quote cs = none := by
  rw [lead] at h
  rw [closing?, if_neg (by omega)]

/-- The quotes at the end of a string go with the ones that close it. -/
theorem closing?_replicate {quote : Char} {n : Nat} (hn : n < 3) {rest : List Char}
    (hrest : rest.head? ≠ some quote) :
    closing? quote (List.replicate n quote ++ quote :: quote :: quote :: rest) =
      some (List.replicate n quote, rest) := by
  have hsplit : List.replicate n quote ++ quote :: quote :: quote :: rest =
      List.replicate (n + 3) quote ++ rest := by
    rw [← List.replicate_append_replicate, List.append_assoc]
    rfl
  have htake : (List.replicate (n + 3) quote ++ rest).takeWhile (· == quote) =
      List.replicate (n + 3) quote := by
    rw [List.takeWhile_append_of_pos (by simp)]
    cases rest with
    | nil => simp
    | cons c rest =>
      have hc : c ≠ quote := by simpa using hrest
      simp [hc]
  simp only [closing?, hsplit, htake, List.length_replicate, show min 5 (n + 3) = n + 3 by omega,
    show 3 ≤ n + 3 by omega, if_true, Nat.add_sub_cancel]
  rw [List.drop_left' (List.length_replicate)]

/-- Closing quotes are not found in a text that has fewer of them on end, unless
the text is nothing but quotes itself. -/
theorem closing?_append {quote : Char} (cs : List Char) (h : lead quote cs < 3) {rest : List Char}
    (hrest : rest.head? ≠ some quote) :
    (∀ c ∈ cs, c = quote) ∧
        closing? quote (cs ++ quote :: quote :: quote :: rest) = some (cs, rest) ∨
      closing? quote (cs ++ quote :: quote :: quote :: rest) = none := by
  by_cases hall : ∀ c ∈ cs, c = quote
  · obtain ⟨n, rfl⟩ : ∃ n, cs = List.replicate n quote := ⟨_, List.eq_replicate_of_mem hall⟩
    have hn : n < 3 := by simpa [lead] using h
    exact .inl ⟨hall, closing?_replicate hn hrest⟩
  · exact .inr (closing?_of_lead_lt (by rwa [lead_append hall]))

/-- A text that is escaped for several lines opens with no more quotes than make two in a row. -/
theorem lead_escapedLines {run : Nat} (h : run ≤ 2) (cs : List Char) :
    lead '"' (escapedLines run cs) ≤ 2 - run := by
  induction cs generalizing run with
  | nil => exact Nat.zero_le _
  | cons c cs ih =>
    rw [escapedLines]
    split_ifs with hquote hn
    · rw [hquote.1, lead_cons_self]
      have hlead : lead '"' (escapedLines (run + 1) cs) ≤ 2 - (run + 1) := ih hquote.2
      omega
    · rw [hn, lead_cons_of_ne (by decide)]
      exact Nat.zero_le _
    · rcases escaped_cases c with ⟨he, hc, -⟩ | ⟨e, more, he, -, -⟩
      · simp only [List.mem_cons, not_or] at hc
        rw [he, List.singleton_append, lead_cons_of_ne hc.1]
        exact Nat.zero_le _
      · rw [he, List.cons_append, lead_cons_of_ne (by decide)]
        exact Nat.zero_le _

/-- Only quotes are written as nothing but quotes. -/
theorem eq_of_escapedLines {run : Nat} {cs : List Char} (h : ∀ c ∈ escapedLines run cs, c = '"') :
    escapedLines run cs = cs := by
  induction cs generalizing run with
  | nil => rfl
  | cons c cs ih =>
    rw [escapedLines] at h ⊢
    split_ifs at h ⊢ with hquote hn
    · rw [ih fun x hx => h x (List.mem_cons_of_mem _ hx)]
    · exact absurd (hn.symm.trans (h c List.mem_cons_self)) (by decide)
    · rcases escaped_cases c with ⟨he, hc, -⟩ | ⟨e, more, he, -, -⟩
      · have hc' := h c (by simp [he])
        simp [hc'] at hc
      · exact absurd (h '\\' (by simp [he])) (by decide)

/-- A character between triple quotes is read from the form in which it is written. -/
theorem multiBasic?_escaped {c : Char} {fuel : Nat} {rest : List Char}
    (h : closing? '"' (escaped c ++ rest) = none) :
    multiBasic? (fuel + 1) (escaped c ++ rest) =
      (multiBasic? fuel rest).map fun r => (c :: r.1, r.2) := by
  rcases escaped_cases c with ⟨he, hc, hprintable⟩ | ⟨e, more, he, hblank, hescape⟩
  · simp only [List.mem_cons, not_or] at hc
    rw [he, List.singleton_append] at h ⊢
    rw [multiBasic?, h]
    simp only [if_neg hc.2.1, if_pos (Or.inl hprintable)]
    cases multiBasic? fuel rest <;> rfl
  · have hname := hescape rest
    simp only [List.mem_cons, not_or] at hblank
    have hline : lineEnd? (skipBlanks (e :: (more ++ rest))) = none := by
      rw [skipBlanks, List.dropWhile_cons_of_neg (by simp [hblank]), lineEnd?]
      · simp [hblank]
      · simp [hblank]
    rw [he, List.cons_append, List.cons_append] at h ⊢
    rw [multiBasic?, h]
    simp only [if_true, hline, hname]
    show (multiBasic? fuel rest >>= _) = _
    cases multiBasic? fuel rest <;> rfl

/-- A character that stands as it is in a string of several lines. -/
theorem multiBasic?_cons {c : Char} {fuel : Nat} {rest : List Char} (hc : c = '"' ∨ c = '\n')
    (h : closing? '"' (c :: rest) = none) :
    multiBasic? (fuel + 1) (c :: rest) = (multiBasic? fuel rest).map fun r => (c :: r.1, r.2) := by
  rw [multiBasic?, h]
  rcases hc with rfl | rfl
  · show (multiBasic? fuel rest >>= _) = _
    cases multiBasic? fuel rest <;> rfl
  · show (multiBasic? fuel rest >>= _) = _
    cases multiBasic? fuel rest <;> rfl

/-- Triple quotes end the text. -/
theorem multiBasic?_of_closing {cs : List Char} {r : List Char × List Char}
    (h : closing? '"' cs = some r) (fuel : Nat) : multiBasic? (fuel + 1) cs = some r := by
  cases cs with
  | nil => cases h
  | cons c cs => rw [multiBasic?, h]

/-- A basic string of several lines reads back, behind up to two quotes. -/
theorem multiBasic?_escapedLines {run : Nat} (hrun : run ≤ 2) {cs : List Char} {fuel : Nat}
    (h : cs.length < fuel) {rest : List Char} (hrest : rest.head? ≠ some '"') :
    multiBasic? fuel (escapedLines run cs ++ '"' :: '"' :: '"' :: rest) = some (cs, rest) := by
  induction cs generalizing run fuel with
  | nil =>
    obtain ⟨fuel, rfl⟩ : ∃ n, fuel = n + 1 := ⟨fuel - 1, by omega⟩
    exact multiBasic?_of_closing (closing?_replicate (n := 0) (by decide) hrest) fuel
  | cons c cs ih =>
    obtain ⟨fuel, rfl⟩ : ∃ n, fuel = n + 1 := ⟨fuel - 1, by omega⟩
    have hlength : cs.length < fuel := Nat.lt_of_succ_lt_succ h
    have hlead := lead_escapedLines hrun (c :: cs)
    rcases closing?_append (escapedLines run (c :: cs)) (by omega) hrest with
      ⟨hall, hclosing⟩ | hclosing
    · rw [multiBasic?_of_closing hclosing, eq_of_escapedLines hall]
    · rw [escapedLines] at hclosing ⊢
      split_ifs at hclosing ⊢ with hquote hn
      · rw [List.cons_append] at hclosing ⊢
        rw [multiBasic?_cons (.inl hquote.1) hclosing, ih hquote.2 hlength]
        rfl
      · rw [List.cons_append] at hclosing ⊢
        rw [multiBasic?_cons (.inr hn) hclosing, ih (Nat.zero_le 2) hlength]
        rfl
      · rw [List.append_assoc] at hclosing ⊢
        rw [multiBasic?_escaped hclosing, ih (Nat.zero_le 2) hlength]
        rfl

theorem length_le_escapedLines (run : Nat) (cs : List Char) :
    cs.length ≤ (escapedLines run cs).length := by
  induction cs generalizing run with
  | nil => exact Nat.le_refl 0
  | cons c cs ih =>
    have hpos := length_pos_escaped c
    rw [escapedLines]
    split_ifs
    · exact Nat.succ_le_succ (ih (run + 1))
    · exact Nat.succ_le_succ (ih 0)
    · have hrest := ih 0
      rw [List.length_append, List.length_cons]
      omega

/-- A text without a run of quotes has fewer of them in front. -/
theorem lead_lt_of_hasRun {quote : Char} {n run : Nat} {cs : List Char}
    (h : hasRun quote n run cs = false) : run + lead quote cs < n := by
  induction cs generalizing run with
  | nil => simpa [hasRun, lead] using h
  | cons c cs ih =>
    simp only [hasRun, Bool.or_eq_false_iff, decide_eq_false_iff_not, Nat.not_le] at h
    split_ifs at h with hc
    · have hrest := ih h.2
      rw [hc, lead_cons_self]
      omega
    · rw [lead_cons_of_ne hc]
      exact h.1

theorem exists_hasRun_tail {quote c : Char} {n run : Nat} {cs : List Char}
    (h : hasRun quote n run (c :: cs) = false) : ∃ run, hasRun quote n run cs = false := by
  rw [hasRun, Bool.or_eq_false_iff] at h
  exact ⟨_, h.2⟩

/-- A literal string of several lines reads back. -/
theorem multiLiteral?_append {cs : List Char} (hcs : ∀ c ∈ cs, needsEscape c = false) {run : Nat}
    (hrun : hasRun '\'' 3 run cs = false) {fuel : Nat} (h : cs.length < fuel) {rest : List Char}
    (hrest : rest.head? ≠ some '\'') :
    multiLiteral? fuel (cs ++ '\'' :: '\'' :: '\'' :: rest) = some (cs, rest) := by
  induction cs generalizing run fuel with
  | nil =>
    obtain ⟨fuel, rfl⟩ : ∃ n, fuel = n + 1 := ⟨fuel - 1, by omega⟩
    have hclosing := closing?_replicate (n := 0) (by decide) hrest
    rw [List.replicate_zero, List.nil_append] at hclosing
    rw [List.nil_append, multiLiteral?, hclosing]
  | cons c cs ih =>
    obtain ⟨fuel, rfl⟩ : ∃ n, fuel = n + 1 := ⟨fuel - 1, by omega⟩
    have hlead := lead_lt_of_hasRun hrun
    rcases closing?_append (c :: cs) (by omega) hrest with ⟨-, hclosing⟩ | hclosing
    · rw [List.cons_append] at hclosing ⊢
      rw [multiLiteral?, hclosing]
    · obtain ⟨run', hrun'⟩ := exists_hasRun_tail hrun
      have hc : isPrintable c = true ∨ c = '\n' ∨
          (c = '\r' ∧ (cs ++ '\'' :: '\'' :: '\'' :: rest).head? = some '\n') := by
        by_cases hn : c = '\n'
        · exact .inr (.inl hn)
        · exact .inl (isPrintable_of_not_needsEscape (hcs c List.mem_cons_self) hn)
      have htail := ih (fun x hx => hcs x (List.mem_cons_of_mem _ hx)) hrun'
        (Nat.lt_of_succ_lt_succ h)
      rw [List.cons_append] at hclosing ⊢
      rw [multiLiteral?, hclosing]
      simp only [if_pos hc, htail]
      rfl

/-! ## strings of any kind -/

/-- The text behind a string or a key: no quote follows. -/
def Unquoted (rest : List Char) : Prop := rest.head? ≠ some '"' ∧ rest.head? ≠ some '\''

/-- One quote opens a basic string. -/
theorem string?_basic {rest : List Char} (h : ∀ more, rest ≠ '"' :: '"' :: more) :
    string? ('"' :: rest) = basic? (rest.length + 1) rest := by
  unfold string?
  split
  · next more heq => exact absurd (List.cons.inj heq).2 (h more)
  · next heq => cases heq
  · next more heq => rw [(List.cons.inj heq).2]
  · next heq => cases heq
  · next hbasic _ => exact absurd rfl (hbasic rest)

/-- One apostrophe opens a literal string. -/
theorem string?_literal {rest : List Char} (h : ∀ more, rest ≠ '\'' :: '\'' :: more) :
    string? ('\'' :: rest) = literal? rest := by
  unfold string?
  split
  · next heq => cases heq
  · next more heq => exact absurd (List.cons.inj heq).2 (h more)
  · next heq => cases heq
  · next more heq => rw [(List.cons.inj heq).2]
  · next hliteral => exact absurd rfl (hliteral rest)

theorem lineEnd?_of_head? {cs : List Char} (hn : cs.head? ≠ some '\n')
    (hr : cs.head? ≠ some '\r') : lineEnd? cs = none := by
  unfold lineEnd?
  split
  · simp at hn
  · simp at hr
  · rfl

/-- A line end behind the opening quotes is no part of a string of several
lines, and is only written where the string has one of its own. -/
theorem getD_lineEnd?_multi {cs text : List Char}
    (h : cs.contains '\n' = false → text.head? ≠ some '\n' ∧ text.head? ≠ some '\r') :
    (lineEnd? (if cs.contains '\n' then '\n' :: text else text)).getD
      (if cs.contains '\n' then '\n' :: text else text) = text := by
  split
  · rfl
  · next hcs =>
    have hhead := h (Bool.eq_false_iff.2 hcs)
    rw [lineEnd?_of_head? hhead.1 hhead.2]
    rfl

/-- Three quotes open a basic string of several lines, whose first line end is cut. -/
theorem string?_multiBasic (text : List Char) : string? ('"' :: '"' :: '"' :: text) =
    multiBasic? (text.length + 1) ((lineEnd? text).getD text) := rfl

/-- Three apostrophes open a literal string of several lines, whose first line end is cut.
-/
theorem string?_multiLiteral (text : List Char) : string? ('\'' :: '\'' :: '\'' :: text) =
    multiLiteral? (text.length + 1) ((lineEnd? text).getD text) := rfl

theorem multi_append (cs : List Char) (quote : Char) (body rest : List Char) :
    quoted.multi cs quote body ++ rest = quote :: quote :: quote ::
      (if cs.contains '\n' then '\n' :: (body ++ quote :: quote :: quote :: rest)
        else body ++ quote :: quote :: quote :: rest) := by
  rw [quoted.multi]
  split <;> simp

/-- What a string has to be like for its quotes. -/
def Quoting.Fits (cs : List Char) : Quoting → Prop
  | basic => True
  | literal => ∀ c ∈ cs, c ≠ '\'' ∧ isPrintable c = true
  | multiBasic => True
  | multiLiteral => (∀ c ∈ cs, needsEscape c = false) ∧ hasRun '\'' 3 0 cs = false

/-- The quotes that are chosen for a text fit it. -/
theorem quoting_fits (cs : List Char) : (quoting cs).Fits cs := by
  have hcontrols : (!cs.any needsEscape) = true → ∀ c ∈ cs, needsEscape c = false := by
    simp
  have habsent : ∀ x, (!cs.contains x) = true → ∀ c ∈ cs, c ≠ x := by
    intro x h c hc hx
    simp [← hx, hc] at h
  rw [quoting]
  split_ifs with hbasic hliteral hmulti hraw
  · trivial
  · simp only [Bool.and_eq_true] at hliteral
    intro c hc
    exact ⟨habsent _ hliteral.1.2 c hc, isPrintable_of_not_needsEscape
      (hcontrols hliteral.1.1 c hc) (habsent _ hliteral.2 c hc)⟩
  · trivial
  · simp only [Bool.and_eq_true, Bool.not_eq_true'] at hraw
    exact ⟨hcontrols (by rw [hraw.1]; rfl), hraw.2⟩
  · trivial
  · trivial

theorem head?_escaped_append (c : Char) (rest : List Char) :
    (escaped c ++ rest).head? ∉ [some '"', some '\n', some '\r'] := by
  rcases escaped_cases c with ⟨he, hc, -⟩ | ⟨e, more, he, -, -⟩
  · simp only [List.mem_cons, not_or] at hc
    simp [he, hc.1, hc.2.2]
  · simp [he]

theorem head?_escapedLines_append {cs : List Char} (h : cs.contains '\n' = false)
    (rest : List Char) :
    (escapedLines 0 cs ++ '"' :: rest).head? ≠ some '\n' ∧
      (escapedLines 0 cs ++ '"' :: rest).head? ≠ some '\r' := by
  cases cs with
  | nil => simp [escapedLines]
  | cons c cs =>
    rw [escapedLines]
    split_ifs with hquote hn
    · simp [hquote.1]
    · simp [hn] at h
    · have hhead := head?_escaped_append c (escapedLines 0 cs ++ '"' :: rest)
      simp only [List.mem_cons, not_or] at hhead
      rw [List.append_assoc]
      exact ⟨hhead.2.1, hhead.2.2.1⟩

theorem head?_append_of_not_needsEscape {cs : List Char} (h : ∀ c ∈ cs, needsEscape c = false)
    (hcs : cs.contains '\n' = false) (rest : List Char) :
    (cs ++ '\'' :: rest).head? ≠ some '\n' ∧ (cs ++ '\'' :: rest).head? ≠ some '\r' := by
  cases cs with
  | nil => simp
  | cons c cs =>
    refine ⟨fun hn => ?_, fun hr => ?_⟩
    · simp [Option.some.inj hn] at hcs
    · have hc := h c List.mem_cons_self
      rw [Option.some.inj hr] at hc
      cases hc

/-- A string reads back from any quotes that fit it. -/
theorem string?_quoted {cs : List Char} {q : Quoting} (h : q.Fits cs) {rest : List Char}
    (hrest : Unquoted rest) : string? (quoted cs q ++ rest) = some (cs, rest) := by
  cases q with
  | basic =>
    rw [quoted, List.cons_append, List.append_assoc, List.singleton_append, string?_basic]
    · have hlength := length_le_flatMap_escaped cs
      exact basic?_flatMap_escaped (by rw [List.length_append]; omega) rest
    · intro more heq
      cases cs with
      | nil => exact hrest.1 (by rw [(List.cons.inj heq).2, List.head?_cons])
      | cons c cs =>
        have hhead := head?_escaped_append c (cs.flatMap escaped ++ '"' :: rest)
        rw [List.flatMap_cons, List.append_assoc] at heq
        simp [heq] at hhead
  | literal =>
    rw [quoted, List.cons_append, List.append_assoc, List.singleton_append, string?_literal]
    · exact literal?_append h rest
    · intro more heq
      cases cs with
      | nil => exact hrest.2 (by rw [(List.cons.inj heq).2, List.head?_cons])
      | cons c cs => exact (h c List.mem_cons_self).1 (List.cons.inj heq).1
  | multiBasic =>
    have hlength := length_le_escapedLines 0 cs
    rw [quoted, multi_append, string?_multiBasic,
      getD_lineEnd?_multi fun hn => head?_escapedLines_append hn _]
    refine multiBasic?_escapedLines (Nat.zero_le 2) ?_ hrest.1
    split <;> simp only [List.length_cons, List.length_append] <;> omega
  | multiLiteral =>
    rw [quoted, multi_append, string?_multiLiteral,
      getD_lineEnd?_multi fun hn => head?_append_of_not_needsEscape h.1 hn _]
    refine multiLiteral?_append h.1 h.2 ?_ hrest.2
    split <;> simp only [List.length_cons, List.length_append] <;> omega

/-- A string reads back. -/
theorem string?_stringForm (s : String) {rest : List Char} (h : Unquoted rest) :
    string? (stringForm s ++ rest) = some (s.toList, rest) :=
  string?_quoted (quoting_fits s.toList) h

/-! ## keys -/

/-- A key of bare characters needs no quotes. -/
theorem key?_bare {cs : List Char} (hne : cs ≠ []) (hbare : ∀ c ∈ cs, isBareKeyChar c = true)
    {rest : List Char} (hrest : ∀ c ∈ rest.head?, isBareKeyChar c = false) :
    key? (cs ++ rest) = some (String.ofList cs, rest) := by
  have hname : (cs ++ rest).takeWhile isBareKeyChar = cs := by
    rw [List.takeWhile_append_of_pos hbare]
    cases rest with
    | nil => simp
    | cons c rest => rw [List.takeWhile_cons_of_neg (by simp [hrest c rfl]), List.append_nil]
  have hquote : ∀ quote more, isBareKeyChar quote = false → cs ++ rest ≠ quote :: more := by
    intro quote more hquote heq
    obtain ⟨c, cs, rfl⟩ := List.exists_cons_of_ne_nil hne
    rw [List.cons_append] at heq
    rw [← (List.cons.inj heq).1, hbare c List.mem_cons_self] at hquote
    cases hquote
  rw [key?]
  · simp [hname, hne]
  · exact fun more => hquote _ more (by decide)
  · exact fun more => hquote _ more (by decide)

/-- A key reads back, in quotes or without. -/
theorem key?_keyForm (s : String) {rest : List Char}
    (h : ∀ c ∈ rest.head?, isBareKeyChar c = false) :
    key? (keyForm s ++ rest) = some (s, rest) := by
  have hbasic : key? (quoted s.toList .basic ++ rest) = some (s, rest) := by
    have hlength := length_le_flatMap_escaped s.toList
    rw [quoted, List.cons_append, List.append_assoc, List.singleton_append, key?,
      basic?_flatMap_escaped (by rw [List.length_append]; omega) rest]
    simp
  simp only [keyForm]
  split_ifs with hbare hplain hliteral
  · rw [key?_bare hbare.1 (List.all_eq_true.1 hbare.2) h, String.ofList_toList]
  · exact hbasic
  · simp only [Bool.and_eq_true, Bool.not_eq_true', List.any_eq_false, Bool.or_eq_true, not_or,
      Bool.not_eq_true, beq_iff_eq] at hliteral
    rw [quoted, List.cons_append, List.append_assoc, List.singleton_append, key?, literal?_append]
    · simp
    · intro c hc
      have hcontrol := hliteral.1 c hc
      refine ⟨fun hq => ?_, isPrintable_of_not_needsEscape hcontrol.1 hcontrol.2⟩
      subst hq
      simp [hc] at hliteral
  · exact hbasic

/-- What a key begins with. -/
theorem exists_cons_keyForm (s : String) :
    ∃ c cs, keyForm s = c :: cs ∧ (isBareKeyChar c = true ∨ c = '"' ∨ c = '\'') := by
  simp only [keyForm]
  split_ifs with hbare
  · obtain ⟨c, cs, hs⟩ := List.exists_cons_of_ne_nil hbare.1
    exact ⟨c, cs, hs, .inl (List.all_eq_true.1 hbare.2 c (by simp [hs]))⟩
  · exact ⟨_, _, rfl, .inr (.inl rfl)⟩
  · exact ⟨_, _, rfl, .inr (.inr rfl)⟩
  · exact ⟨_, _, rfl, .inr (.inl rfl)⟩

theorem skipBlanks_cons {c : Char} (h : c ≠ ' ' ∧ c ≠ '\t') (cs : List Char) :
    skipBlanks (c :: cs) = c :: cs := by
  rw [skipBlanks, List.dropWhile_cons_of_neg (by simp [h])]

/-- A key is written without a blank in front. -/
theorem skipBlanks_keyForm_append (s : String) (rest : List Char) :
    skipBlanks (keyForm s ++ rest) = keyForm s ++ rest := by
  obtain ⟨c, cs, h, hc⟩ := exists_cons_keyForm s
  rw [h, List.cons_append]
  apply skipBlanks_cons
  constructor <;> rintro rfl <;> revert hc <;> decide

theorem pathForm_singleton (k : String) : pathForm [k] = keyForm k := by
  simp [pathForm, List.intercalate]

/-- The keys of a path are written with points between them. -/
theorem pathForm_cons_cons (k l : String) (ks : List String) :
    pathForm (k :: l :: ks) = keyForm k ++ '.' :: pathForm (l :: ks) := by
  simp [pathForm, List.intercalate]

theorem length_le_pathForm (path : List String) : path.length ≤ (pathForm path).length + 1 := by
  induction path with
  | nil => exact Nat.zero_le _
  | cons k ks ih =>
    cases ks with
    | nil => simp
    | cons l ks =>
      rw [pathForm_cons_cons]
      simp only [List.length_append, List.length_cons] at ih ⊢
      omega

/-- A path of keys reads back, up to the blanks behind it. -/
theorem dottedKey?_pathForm {path : List String} (hpath : path ≠ []) {fuel : Nat}
    (h : path.length ≤ fuel) {rest : List Char} (hbare : ∀ c ∈ rest.head?, isBareKeyChar c = false)
    (hpoint : (skipBlanks rest).head? ≠ some '.') :
    dottedKey? fuel (pathForm path ++ rest) = some (path, skipBlanks rest) := by
  induction path generalizing fuel with
  | nil => exact absurd rfl hpath
  | cons k ks ih =>
    obtain ⟨fuel, rfl⟩ : ∃ n, fuel = n + 1 := ⟨fuel - 1, by rw [List.length_cons] at h; omega⟩
    cases ks with
    | nil =>
      rw [pathForm_singleton, dottedKey?, key?_keyForm k hbare]
      simp only [Option.bind_eq_bind, Option.bind_some]
      split
      · next heq => simp [heq] at hpoint
      · rfl
    | cons l ks =>
      have hblanks : skipBlanks (pathForm (l :: ks) ++ rest) = pathForm (l :: ks) ++ rest := by
        cases ks with
        | nil =>
          rw [pathForm_singleton]
          exact skipBlanks_keyForm_append l rest
        | cons m ks =>
          rw [pathForm_cons_cons, List.append_assoc]
          exact skipBlanks_keyForm_append l _
      have hrest := ih (by simp) (Nat.le_of_succ_le_succ h)
      rw [pathForm_cons_cons, List.append_assoc, List.cons_append, dottedKey?,
        key?_keyForm k (by simp; decide)]
      show (dottedKey? fuel (skipBlanks (pathForm (l :: ks) ++ rest))).map _ = _
      rw [hblanks, hrest]
      rfl

end HttpChain.Toml
