import HttpChain.Proofs.Variable.References
import HttpChain.Variable.Environment

/-!
# HttpChain.Proofs.Variable.Environment

References to the environment, wherever they stand in a text.  They do not
overlap, so expansion replaces all of those whose name is set at once, and nothing
else (`exists_rewriting_expandChars`, `expand_simultaneous`).  It asks the environment
for the names that occur and no others (`expand_congr`), and whatever a name that
occurs is set to, stands in the result (`length_le_length_expand`).
-/

namespace HttpChain.Environment

open Template

/-- What a reference can name: an upper-case letter or an underscore, and behind it
such characters and digits. -/
structure IsName (name : String) : Prop where
  start : ∃ c ∈ name.toList.head?, isNameStart c = true
  fits : ∀ c ∈ name.toList, isNameChar c = true

/-- The reference to a name. -/
def written (name : String) : List Char := '$' :: '\x7b' :: (name.toList ++ ['\x7d'])

/-- The reference to a name stands at a place of a text. -/
def StandsAt (name : String) (cs : List Char) (i : Nat) : Prop :=
  IsName name ∧ written name <+: cs.drop i

/-- A text refers to a name. -/
def Refers (text name : String) : Prop := ∃ i, StandsAt name text.toList i

theorem length_written (name : String) : (written name).length = name.toList.length + 3 := by
  simp [written]

theorem written_ne_nil (name : String) : written name ≠ [] := List.cons_ne_nil _ _

/-- Whatever is read as a reference is written as one. -/
theorem starts_of_reference {cs : List Char} {name : String} {more : Nat}
    (h : reference cs = some (name, more)) :
    IsName name ∧ written name <+: cs ∧ more + 1 = (written name).length := by
  unfold reference at h
  split at h
  · next cs =>
    dsimp only at h
    split at h
    · next c ds rest htake hdrop =>
      split at h
      · next hstart =>
        cases h
        have hall : ∀ d ∈ c :: ds, isNameChar d = true := fun d hd =>
          List.all_eq_true.1 List.all_takeWhile d (htake ▸ hd)
        have hsplit : cs = c :: ds ++ '\x7d' :: rest := by
          rw [← htake, ← hdrop, List.takeWhile_append_dropWhile]
        rw [htake]
        refine ⟨⟨⟨c, by simp, hstart⟩, by simpa using hall⟩, ⟨rest, ?_⟩, by simp [length_written]⟩
        rw [written, String.toList_ofList, hsplit]
        simp
      · cases h
    · cases h
  · cases h

/-- A reference is read as one, whatever follows. -/
theorem reference_written_append {name : String} (hname : IsName name) (rest : List Char) :
    reference (written name ++ rest) = some (name, name.toList.length + 2) := by
  obtain ⟨c, hc, hstart⟩ := hname.start
  obtain ⟨ds, hcs⟩ := List.head?_eq_some_iff.1 hc
  have hclose : isNameChar '\x7d' = false := by decide
  have htake : (name.toList ++ '\x7d' :: rest).takeWhile isNameChar = c :: ds := by
    rw [List.takeWhile_append_of_pos hname.fits, List.takeWhile_cons_of_neg (by simp [hclose]),
      List.append_nil, hcs]
  have hdrop : (name.toList ++ '\x7d' :: rest).dropWhile isNameChar = '\x7d' :: rest := by
    rw [List.dropWhile_append_of_pos hname.fits, List.dropWhile_cons_of_neg (by simp [hclose])]
  have hreference : reference (written name ++ rest) =
      some (String.ofList (c :: ds), (c :: ds).length + 2) := by
    simp only [written, List.cons_append, List.append_assoc, List.nil_append, reference, htake,
      hdrop, if_pos hstart]
  rw [hreference, ← hcs, String.ofList_toList]

theorem reference_eq_some_iff {cs : List Char} {name : String} {more : Nat} :
    reference cs = some (name, more) ↔
      IsName name ∧ written name <+: cs ∧ more + 1 = (written name).length := by
  refine ⟨starts_of_reference, ?_⟩
  rintro ⟨hname, ⟨rest, rfl⟩, hmore⟩
  rw [length_written] at hmore
  rw [reference_written_append hname, show more = name.toList.length + 2 by omega]

theorem spelled : Spelled reference IsName written where
  eq_some_iff := reference_eq_some_iff
  apart {name other k} rest hname hpos hk hstarts := by
    -- the dollar sign that a reference begins with stands nowhere else in one
    have hdollar : '$' ∉ '\x7b' :: (name.toList ++ ['\x7d']) := by
      rw [List.mem_cons, List.mem_append, not_or, not_or]
      exact ⟨by decide, fun hmem => absurd (hname.fits _ hmem) (by decide), by decide⟩
    obtain ⟨m, rfl⟩ : ∃ m, k = m + 1 := ⟨k - 1, by omega⟩
    obtain ⟨behind, hbehind⟩ := hstarts
    have hplace : (written name ++ rest)[m + 1]? = some '$' := by
      rw [← List.head?_drop, ← hbehind]
      rfl
    rw [List.getElem?_append_left hk, written, List.getElem?_cons_succ] at hplace
    exact hdollar (List.mem_of_getElem? hplace)

/-- Each reference whose name is set is replaced by its value. -/
def insertions (env : Environment) (cs : List Char) : Edits := fun i n v =>
  ∃ name, StandsAt name cs i ∧ n = (written name).length ∧ (env name).map String.toList = some v

/-- Expansion replaces all references at once. -/
theorem exists_rewriting_expandChars (env : Environment) (cs : List Char) :
    ∃ out, Rewriting cs (insertions env cs) out ∧ upTo out cs.length = env.expandChars cs :=
  spelled.exists_rewriting_expand written_ne_nil _ cs

/-- References that stand in a text are the same one, or apart. -/
theorem eq_or_apart {a b : String} {cs : List Char} {i j : Nat} (ha : StandsAt a cs i)
    (hb : StandsAt b cs j) :
    (i = j ∧ a = b) ∨ i + (written a).length ≤ j ∨ j + (written b).length ≤ i :=
  spelled.eq_or_apart written_ne_nil ha hb

/-- Expansion asks the environment for the names that occur, and no others. -/
theorem expand_congr {env env' : Environment} {text : String}
    (h : ∀ name, Refers text name → env name = env' name) : env.expand text = env'.expand text := by
  refine congrArg String.ofList (spelled.expand_congr written_ne_nil fun name i hname hstarts => ?_)
  rw [h name ⟨i, hname, hstarts⟩]

/-- Where no name that occurs is set, a text is left as it is. -/
theorem expand_of_unset {env : Environment} {text : String}
    (h : ∀ name, Refers text name → env name = none) : env.expand text = text := by
  have hchars : env.expandChars text.toList = text.toList :=
    spelled.expand_eq_self written_ne_nil fun name i hname hstarts => by
      rw [h name ⟨i, hname, hstarts⟩]
      rfl
  rw [expand, hchars, String.ofList_toList]

/-- What a name that occurs is set to stands in the result. -/
theorem length_le_length_expand {env : Environment} {text name value : String}
    (h : Refers text name) (hvalue : env name = some value) :
    value.length ≤ (env.expand text).length := by
  obtain ⟨i, hstands⟩ := h
  obtain ⟨out, hout, htext⟩ := exists_rewriting_expandChars env text.toList
  have hedit : env.insertions text.toList i (written name).length value.toList :=
    ⟨name, hstands, rfl, by rw [hvalue]; rfl⟩
  have hwithin := hout.within _ _ _ hedit
  obtain ⟨rest, hrest⟩ := upTo_eq_append out (show i < text.toList.length by omega)
  rw [expand, ← htext, hrest, hout.edited _ _ _ hedit]
  simp only [String.length_ofList, List.length_append, String.length_toList]
  omega

theorem Refers.ne_empty {text name : String} (h : Refers text name) : text ≠ "" := by
  rintro rfl
  obtain ⟨i, -, hstarts⟩ := h
  have hlength := hstarts.length_le
  simp [length_written] at hlength

/-- A text without a dollar sign ahead of a brace refers to nothing. -/
theorem not_refers_of_not_infix {text : String} (h : ¬ ['$', '\x7b'] <:+: text.toList)
    (name : String) : ¬ Refers text name := by
  rintro ⟨i, -, hstarts⟩
  refine h (List.IsInfix.trans ?_ (List.drop_suffix i text.toList).isInfix)
  exact (List.IsPrefix.trans ⟨name.toList ++ ['\x7d'], rfl⟩ hstarts).isInfix

/-! ## all references at once -/

/-- Behind the signs at its front, the first sign of a reference is the brace that closes
it. -/
theorem closes_of_not_isNameChar {name : String} (hname : IsName name) {k : Nat} {c : Char}
    (hc : isNameChar c = false) (h : (written name)[k + 2]? = some c) :
    c = '\x7d' ∧ k + 3 = (written name).length := by
  rw [length_written]
  simp only [written, List.getElem?_cons_succ] at h
  rcases Nat.lt_or_ge k name.toList.length with hlt | hge
  · rw [List.getElem?_append_left hlt] at h
    have := hname.fits c (List.mem_of_getElem? h)
    grind
  · rw [List.getElem?_append_right hge, List.getElem?_singleton] at h
    grind

/-- The signs in a reference are those at its ends. -/
theorem signs_written {name : String} (hname : IsName name) (k : Nat) :
    ((written name)[k]? = some '$' → k = 0) ∧
    ((written name)[k]? = some '\x7b' → k = 1) ∧
    ((written name)[k]? = some '\x7d' → k + 1 = (written name).length) := by
  match k with
  | 0 => simp [written]
  | 1 => simp [written]
  | k + 2 =>
    refine ⟨fun h => ?_, fun h => ?_, fun h => ?_⟩
    · exact absurd (closes_of_not_isNameChar hname (by decide) h).1 (by decide)
    · exact absurd (closes_of_not_isNameChar hname (by decide) h).1 (by decide)
    · exact (closes_of_not_isNameChar hname (by decide) h).2

/-- The signs that stand within a reference are those at its ends. -/
theorem StandsAt.signs {name : String} {cs : List Char} {i j : Nat} (h : StandsAt name cs i)
    (hij : i ≤ j) (hj : j < i + (written name).length) :
    (cs[j]? = some '$' → j = i) ∧ (cs[j]? = some '\x7b' → j = i + 1) ∧
      (cs[j]? = some '\x7d' → j + 1 = i + (written name).length) := by
  obtain ⟨k, rfl⟩ := Nat.exists_eq_add_of_le hij
  have hplace : cs[i + k]? = (written name)[k]? := by
    rw [← List.getElem?_drop, List.prefix_iff_getElem?.1 h.2 k (by omega),
      List.getElem?_eq_getElem]
  have hsigns := signs_written h.1 k
  rw [hplace]
  grind

/-- Expansion is simultaneous replacement.  References do not overlap, each of them whose
name is set is replaced by the value, which stands in the result as it is, and so does
every character that is in no such reference.  A dollar sign is in a reference only if
one begins there, an opening brace only behind such a dollar sign, and a closing brace
only where a reference ends: all others stay as written.  The result depends on the
environment only through the names that occur. -/
theorem expand_simultaneous (env : Environment) (text : String) :
    (∀ a b i j, StandsAt a text.toList i → StandsAt b text.toList j →
      (i = j ∧ a = b) ∨ i + (written a).length ≤ j ∨ j + (written b).length ≤ i) ∧
    (∃ out, Rewriting text.toList (insertions env text.toList) out ∧
      (env.expand text).toList = upTo out text.toList.length ∧
      ∀ j c, text.toList[j]? = some c →
        (∀ name i, StandsAt name text.toList i → i ≤ j → j < i + (written name).length →
          env name = none) → out j = [c]) ∧
    (∀ name i j, StandsAt name text.toList i → i ≤ j → j < i + (written name).length →
      (text.toList[j]? = some '$' → j = i) ∧ (text.toList[j]? = some '\x7b' → j = i + 1) ∧
      (text.toList[j]? = some '\x7d' → j + 1 = i + (written name).length)) ∧
    (∀ env' : Environment, (∀ name, Refers text name → env' name = env name) →
      env'.expand text = env.expand text) := by
  refine ⟨fun a b i j => eq_or_apart, ?_, fun name i j => StandsAt.signs,
    fun env' => expand_congr⟩
  obtain ⟨out, hout, htext⟩ := exists_rewriting_expandChars env text.toList
  refine ⟨out, hout, by rw [expand, htext, String.toList_ofList], fun j c hc hunset => ?_⟩
  refine hout.kept j c hc fun i n v hedit => ?_
  obtain ⟨name, hstands, rfl, hvalue⟩ := hedit
  by_contra hcovers
  have hnone := hunset name i hstands (by omega) (by omega)
  simp [hnone] at hvalue

/-- A dollar sign ahead of a reference, references to unset names and around others, and
one that is not closed. -/
def nested : String := "$$\x7bA\x7d $\x7b$\x7bB\x7d\x7d $\x7ba\x7d $\x7bC\x7d $\x7bA"

/-- A value that looks like a reference. -/
def nestedSettings : List (String × String) := [("A", "$\x7bB\x7d"), ("B", "x")]

/-- The references that are set are replaced, whatever names that do not occur are set to. -/
theorem expand_simultaneous_nested :
    StandsAt "A" nested.toList 1 ∧ StandsAt "B" nested.toList 8 ∧ 1 + (written "A").length ≤ 8 ∧
    (ofList nestedSettings).expand nested =
      "$$\x7bB\x7d $\x7bx\x7d $\x7ba\x7d $\x7bC\x7d $\x7bA" ∧
    (ofList (("D", "y") :: nestedSettings)).expand nested =
      (ofList nestedSettings).expand nested := by
  have hA : StandsAt "A" nested.toList 1 :=
    ⟨⟨⟨'A', rfl, rfl⟩, List.forall_mem_singleton.2 rfl⟩, _, rfl⟩
  have hB : StandsAt "B" nested.toList 8 :=
    ⟨⟨⟨'B', rfl, rfl⟩, List.forall_mem_singleton.2 rfl⟩, _, rfl⟩
  obtain ⟨hapart, -, -, hcongr⟩ := expand_simultaneous (ofList nestedSettings) nested
  have hnot : ¬ Refers nested "D" := by
    rintro ⟨i, -, hstarts⟩
    have hmem : 'D' ∈ nested.toList := List.mem_of_mem_drop (hstarts.subset (by decide))
    exact absurd hmem (by decide)
  refine ⟨hA, hB, ?_, by decide, hcongr _ fun name hname => ?_⟩
  · rcases hapart _ _ _ _ hA hB with ⟨h, -⟩ | h | h
    · exact absurd h (by decide)
    · exact h
    · exact absurd h (by decide)
  · have hne : "D" ≠ name := by
      rintro rfl
      exact hnot hname
    simp [ofList, nestedSettings, List.find?_cons, hne]

end HttpChain.Environment
