import HttpChain.Proofs.Http.Headers
import HttpChain.Proofs.Request.Resolution

/-!
# HttpChain.Proofs.Http.MethodName

The texts that name a method.  A character is read as its upper-case form, and there are ten
outside ASCII with a form in ASCII (`Method.expanding`), some of several letters.  What can
be written for a word is therefore found from letter to letter (`Method.spellings`).  For the
names of two methods it is more than the name in any letter case, namely three words each
(`Method.lookalikes`); every other text is refused (`Method.ofText?_exact`).
-/

namespace HttpChain

/-! ## the case of a character -/

namespace Text

theorem toLower_of_le {c : Char} (h : 128 ≤ c.toNat) : c.toLower = c := by
  refine dif_neg ?_
  rintro ⟨-, hle⟩
  have hle' : c.val.toNat ≤ 90 := UInt32.le_iff_toNat_le.1 hle
  rw [Char.toNat] at h
  omega

theorem toUpper_of_le {c : Char} (h : 128 ≤ c.toNat) : c.toUpper = c := by
  refine dif_neg ?_
  rintro ⟨-, hle⟩
  have hle' : c.val.toNat ≤ 122 := UInt32.le_iff_toNat_le.1 hle
  rw [Char.toNat] at h
  omega

/-- What holds of every ASCII character and of every other one, holds of all. -/
theorem char_induction {p : Char → Prop} (ascii : ∀ n < 128, p (Char.ofNat n))
    (other : ∀ c : Char, 128 ≤ c.toNat → p c) (c : Char) : p c := by
  by_cases h : c.toNat < 128
  · have hc := ascii c.toNat h
    rwa [Char.ofNat_toNat] at hc
  · exact other c (Nat.le_of_not_lt h)

theorem toUpper_toLower (c : Char) : c.toLower.toUpper = c.toUpper := by
  induction c using char_induction with
  | ascii n hn => revert n; decide
  | other c h => rw [toLower_of_le h]

theorem toLower_toUpper (c : Char) : c.toUpper.toLower = c.toLower := by
  induction c using char_induction with
  | ascii n hn => revert n; decide
  | other c h => rw [toUpper_of_le h]

theorem toUpper_eq_iff {c d : Char} (hd : d.toUpper = d) :
    c.toUpper = d ↔ c.toLower = d.toLower := by
  constructor
  · intro h
    rw [← h, toLower_toUpper]
  · intro h
    rw [← toUpper_toLower c, h, toUpper_toLower, hd]

end Text

namespace Method

open Text (foldCase trim)

/-! ## the upper-case form of a character -/

/-- The characters outside ASCII that have ASCII characters as their upper-case form. -/
def expanding : List Char := ['ı', 'ſ', 'ß', 'ﬀ', 'ﬁ', 'ﬂ', 'ﬃ', 'ﬄ', 'ﬅ', 'ﬆ']

theorem upperCase_of_not_mem {c : Char} (h : c ∉ expanding) : upperCase c = [c.toUpper] := by
  unfold upperCase
  split
  all_goals first | rfl | exact absurd (by decide) h

theorem toLower_mem_expanding_iff (c : Char) : c.toLower ∈ expanding ↔ c ∈ expanding := by
  induction c using Text.char_induction with
  | ascii n hn => revert n; decide
  | other c h => rw [Text.toLower_of_le h]

theorem upperCase_ne_nil (c : Char) : upperCase c ≠ [] := by
  unfold upperCase
  split <;> exact List.cons_ne_nil _ _

/-- The capital letters that the names of methods are made of. -/
def capitals : List Char := "ACDEGHILNOPSTU".toList

/-- The characters whose upper-case form starts with a capital letter, in small letters, each
with what its upper-case form goes on with. -/
def starting (d : Char) : List (Char × List Char) :=
  match d with
  | 'I' => [('i', []), ('ı', [])]
  | 'S' => [('s', []), ('ſ', []), ('ß', ['S']), ('ﬅ', ['T']), ('ﬆ', ['T'])]
  | d => [(d.toLower, [])]

theorem upperCase_eq_cons_iff {c d : Char} {tail : List Char} (hd : d ∈ capitals) :
    upperCase c = d :: tail ↔ (c.toLower, tail) ∈ starting d := by
  by_cases hc : c ∈ expanding
  · -- the upper-case forms are a table, and so are the characters they are read from
    have hforward : (expanding.all fun c => capitals.all fun d => decide
        ((upperCase c).head? = some d → (c.toLower, (upperCase c).tail) ∈ starting d)) = true := by
      decide
    have hback : (expanding.all fun c => capitals.all fun d => decide
        (∀ s ∈ starting d, s.1 = c.toLower → upperCase c = d :: s.2)) = true := by
      decide
    simp only [List.all_eq_true, decide_eq_true_eq] at hforward hback
    constructor
    · intro h
      have hmem := hforward c hc d hd (by rw [h]; rfl)
      rwa [h] at hmem
    · exact fun h => hback c hc d hd _ h rfl
  · have hsingle : (capitals.all fun d => decide (d.toUpper = d ∧ (d.toLower, []) ∈ starting d ∧
        ∀ s ∈ starting d, s.1 ∈ expanding ∨ s = (d.toLower, []))) = true := by
      decide
    simp only [List.all_eq_true, decide_eq_true_eq] at hsingle
    obtain ⟨hupper, hself, hother⟩ := hsingle d hd
    rw [upperCase_of_not_mem hc, List.cons.injEq, Text.toUpper_eq_iff hupper]
    constructor
    · rintro ⟨hlower, rfl⟩
      rwa [hlower]
    · intro h
      rcases hother _ h with hmem | heq
      · exact absurd ((toLower_mem_expanding_iff c).1 hmem) hc
      · exact ⟨congrArg Prod.fst heq, (congrArg Prod.snd heq).symm⟩

/-! ## what is written for a word -/

/-- What can be written for the rest of a word, in small letters, if the upper-case form of
the character ahead goes on with `pending`. -/
def spellings : (pending word : List Char) → List (List Char)
  | [], [] => [[]]
  | _ :: _, [] => []
  | [], d :: word => (starting d).flatMap fun s => (spellings s.2 word).map (s.1 :: ·)
  | p :: pending, d :: word => if p = d then spellings pending word else []

/-- The induction is on the word: its first letter either goes on with the upper-case form of
the character ahead, or it starts that of the next character. -/
theorem append_flatMap_upperCase_eq_iff {pending word cs : List Char}
    (hword : word ⊆ capitals) :
    pending ++ cs.flatMap upperCase = word ↔ foldCase cs ∈ spellings pending word := by
  induction word generalizing pending cs with
  | nil =>
    cases pending <;> cases cs <;> simp [spellings, foldCase, upperCase_ne_nil]
  | cons d word ih =>
    obtain ⟨hd, hword⟩ := List.cons_subset.1 hword
    cases pending with
    | nil =>
      cases cs with
      | nil => simp [spellings, foldCase]
      | cons c rest =>
        rw [List.nil_append, List.flatMap_cons, List.append_eq_cons_iff, spellings,
          List.mem_flatMap]
        simp only [upperCase_ne_nil, false_and, false_or, List.mem_map]
        constructor
        · rintro ⟨tail, hc, hrest⟩
          exact ⟨(c.toLower, tail), (upperCase_eq_cons_iff hd).1 hc, foldCase rest,
            (ih hword).1 hrest.symm, rfl⟩
        · rintro ⟨⟨lower, tail⟩, hstart, text, htext, heq⟩
          obtain ⟨rfl, rfl⟩ := List.cons.inj heq
          exact ⟨tail, (upperCase_eq_cons_iff hd).2 hstart, ((ih hword).2 htext).symm⟩
    | cons p pending =>
      rw [List.cons_append, List.cons.injEq, spellings, ih hword]
      split <;> simp [*]

/-- Up to the case of ASCII letters, the texts with a word as their upper-case form are what
can be written for it. -/
theorem flatMap_upperCase_eq_iff {word cs : List Char} (hword : word ⊆ capitals) :
    cs.flatMap upperCase = word ↔ foldCase cs ∈ spellings [] word := by
  rw [← append_flatMap_upperCase_eq_iff hword, List.nil_append]

/-! ## the names of methods -/

/-- The words that are no name of a method and are read as one, up to the case of ASCII
letters. -/
def lookalikes : Method → List String
  | post => ["poſt", "poﬅ", "poﬆ"]
  | options => ["optionſ", "optıons", "optıonſ"]
  | _ => []

theorem spellings_name (m : Method) :
    spellings [] m.name.toList = (m.name :: m.lookalikes).map fun w => foldCase w.toList := by
  cases m <;> decide

theorem name_subset_capitals (m : Method) : m.name.toList ⊆ capitals := by
  cases m <;> decide

theorem ofText?_eq_some_iff {text : String} {m : Method} :
    ofText? text = some m ↔ m.name.toList = (trim text.toList).flatMap upperCase := by
  constructor
  · intro h
    simpa using List.find?_some h
  · intro h
    rw [ofText?, ← h]
    cases m <;> decide

/-- A text is read as a method if it is the name or a lookalike of it, without blanks around
and up to the case of ASCII letters. -/
theorem ofText?_eq_some_iff_sameName {text : String} {m : Method} :
    ofText? text = some m ↔
      ∃ w ∈ m.name :: m.lookalikes, Text.sameName (Text.strip text) w = true := by
  rw [ofText?_eq_some_iff, eq_comm, flatMap_upperCase_eq_iff m.name_subset_capitals,
    spellings_name, List.mem_map]
  refine exists_congr fun w => and_congr_right fun _ => ?_
  rw [Text.sameName_iff, Text.strip, String.toList_ofList, eq_comm]

theorem sameName_name_of_lookalike {text w : String} {m : Method} (hw : w ∈ m.lookalikes)
    (h : Text.sameName text w = true) : Text.sameName text m.name = false := by
  have hapart : ∀ w ∈ m.lookalikes, Text.sameName w m.name = false := by cases m <;> decide
  by_contra hname
  rw [Bool.not_eq_false] at hname
  have hsame := hapart w hw
  rw [Text.sameName_trans (Text.sameName_symm h) hname] at hsame
  cases hsame

/-- A text with a character outside ASCII is not the name of a method in any letter case. -/
theorem sameName_name_of_le {text : String} {c : Char} (hc : c ∈ trim text.toList)
    (hle : 128 ≤ c.toNat) (m : Method) : Text.sameName (Text.strip text) m.name = false := by
  have hname : (foldCase m.name.toList).all (fun d => decide (d.toNat < 128)) = true := by
    cases m <;> decide
  simp only [List.all_eq_true, decide_eq_true_eq] at hname
  by_contra hsame
  rw [Bool.not_eq_false, Text.sameName_iff, Text.strip, String.toList_ofList] at hsame
  have hmem : c.toLower ∈ foldCase m.name.toList := hsame ▸ List.mem_map_of_mem hc
  rw [Text.toLower_of_le hle] at hmem
  exact absurd (hname c hmem) (Nat.not_lt.2 hle)

/-- Which texts name a method.  Without the blanks around it and up to the case of ASCII
letters, a text that does is the name of the method or a lookalike of it, so that the names
alone decide exactly at the texts that are no lookalikes.  In particular a text with a
character outside ASCII names a method only if it is a lookalike.  A text that names none
makes resolving fail with an error of the config that quotes the text. -/
theorem ofText?_exact (text : String) :
    (∀ m, ofText? text = some m ↔
      ∃ w ∈ m.name :: m.lookalikes, Text.sameName (Text.strip text) w = true) ∧
    (∀ m, (ofText? text = some m ↔ Text.sameName (Text.strip text) m.name = true) ↔
      ∀ w ∈ m.lookalikes, Text.sameName (Text.strip text) w = false) ∧
    ((∃ c ∈ trim text.toList, 128 ≤ c.toNat) → (ofText? text = none ↔
      ∀ m : Method, ∀ w ∈ m.lookalikes, Text.sameName (Text.strip text) w = false)) ∧
    (∀ (c : Config) (env : Environment) (t : RequestTemplate) (ctx : Context) (draws : Draws),
      (c.resolve env { t with method := text } ctx draws).1 = .error (.config (.method text)) ↔
        ofText? text = none) ∧
    (Error.config (.method text)).isConfig = true ∧
    (Error.config (.method text)).message = "config error: Invalid HTTP method: " ++ text := by
  refine ⟨fun m => ofText?_eq_some_iff_sameName, fun m => ?_, fun hother => ?_,
    fun c env t ctx draws => ?_, rfl, ?_⟩
  · rw [ofText?_eq_some_iff_sameName, List.exists_mem_cons_iff, or_iff_left_iff_imp]
    constructor
    · intro h w hw
      by_contra hsame
      rw [Bool.not_eq_false] at hsame
      have hname := h ⟨w, hw, hsame⟩
      rw [sameName_name_of_lookalike hw hsame] at hname
      cases hname
    · rintro h ⟨w, hw, hsame⟩
      rw [h w hw] at hsame
      cases hsame
  · obtain ⟨c, hc, hle⟩ := hother
    rw [Option.eq_none_iff_forall_ne_some]
    refine forall_congr' fun m => ?_
    rw [ne_eq, ofText?_eq_some_iff_sameName, List.exists_mem_cons_iff]
    simp [sameName_name_of_le hc hle m]
  · rw [Config.resolve_fst]
    cases hmethod : ofText? text with
    | none => simp
    | some m =>
      dsimp only
      split <;> simp
  · rfl

/-- A word with a ligature names a method if it is a lookalike, and only then. -/
theorem ofText?_exact_ligature :
    (∃ c ∈ trim "ﬆop".toList, 128 ≤ c.toNat) ∧ ofText? "ﬆop" = none ∧
      ofText? " Poﬆ " = some .post := by
  have hligature : ∃ c ∈ trim "ﬆop".toList, 128 ≤ c.toNat := ⟨'ﬆ', by decide, by decide⟩
  obtain ⟨-, -, hother, -⟩ := ofText?_exact "ﬆop"
  obtain ⟨hsome, -⟩ := ofText?_exact " Poﬆ "
  refine ⟨hligature, (hother hligature).2 fun m => ?_, (hsome .post).2 ⟨"poﬆ", ?_, ?_⟩⟩
  · cases m <;> decide
  · decide
  · decide

/-- The names of methods up to the case of ASCII letters are not all that names one, and a
character outside ASCII does not keep a text from it. -/
theorem not_ofText?_ascii :
    ¬ (∀ (text : String) (m : Method), ofText? text = some m ↔
      Text.sameName (Text.strip text) m.name = true) ∧
    ¬ (∀ text : String, (∃ c ∈ trim text.toList, 128 ≤ c.toNat) → ofText? text = none) := by
  have hread : ofText? "optıons" = some .options := by decide
  refine ⟨fun h => ?_, fun h => ?_⟩
  · exact absurd ((h "optıons" .options).1 hread) (by decide)
  · rw [h "optıons" ⟨'ı', by decide, by decide⟩] at hread
    cases hread

end Method

end HttpChain
