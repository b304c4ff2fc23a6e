import HttpChain.Proofs.Variable.Placeholder
import HttpChain.Proofs.Variable.QueryForm

/-!
# HttpChain.Proofs.Variable.Substitution

What substitution does to a text, said of all places of the text at once.
Without dynamic tokens it replaces every placeholder whose name is bound and
nothing else, so that it depends on a context only through the names that occur
(`substitute_simultaneous`).  With dynamic tokens these go first, each for a
value of its own, and none is left; one that stands in the result meets a value
that a placeholder was replaced by (`substitute_dynamic`).
-/

namespace HttpChain

open Template

/-! ## values that are drawn -/

namespace Draws

theorem length_uuidDigits (n : Nat) : (uuidDigits n).length = 32 := by
  simp [uuidDigits]

/-- An identifier is made of lower-case hexadecimal digits. -/
theorem mem_uuidDigits {n : Nat} {c : Char} (h : c ∈ uuidDigits n) :
    c ∈ "0123456789abcdef".toList := by
  have hdigit : ∀ k < 16, Text.lowerHex k ∈ "0123456789abcdef".toList := by decide
  simp only [uuidDigits, List.mem_map] at h
  obtain ⟨i, -, rfl⟩ := h
  exact hdigit _ (Nat.mod_lt _ (by decide))

/-- Values that are drawn have only letters and digits. -/
theorem isAlphanum_of_mem_value {d : Draws} {t : DynamicToken} {c : Char} (h : c ∈ d.value t) :
    c.isAlphanum = true := by
  cases t with
  | timestamp =>
    have hdigit : c.isDigit = true := Nat.isDigit_of_mem_toDigits (by decide) (by decide) h
    simp [Char.isAlphanum, hdigit]
  | uuid =>
    have hall : "0123456789abcdef".toList.all Char.isAlphanum = true := by decide
    exact List.all_eq_true.1 hall c (mem_uuidDigits h)

theorem value_ne_nil (d : Draws) (t : DynamicToken) : d.value t ≠ [] := by
  cases t with
  | timestamp => exact Nat.toDigits_ne_nil
  | uuid => exact List.ne_nil_of_length_eq_add_one (length_uuidDigits _)

/-- No value that is drawn is part of the text of a dynamic token: identifiers
are too long, and the digits of a time are not in it. -/
theorem not_value_infix (d : Draws) (t t' : DynamicToken) : ¬ d.value t <:+: t'.written := by
  intro h
  cases t with
  | timestamp =>
    obtain ⟨c, cs, hcs⟩ := List.exists_cons_of_ne_nil (d.value_ne_nil .timestamp)
    have hc : c ∈ d.value .timestamp := hcs ▸ List.mem_cons_self
    have hdigit : c.isDigit = true := Nat.isDigit_of_mem_toDigits (by decide) (by decide) hc
    have hnone : t'.written.any Char.isDigit = false := by cases t' <;> decide
    exact List.any_eq_false.1 hnone c (h.subset hc) hdigit
  | uuid =>
    have hshort : t'.written.length < 32 := by cases t' <;> decide
    have hlength := h.length_le
    rw [show (d.value .uuid).length = 32 from length_uuidDigits _] at hlength
    omega

end Draws

/-! ## without dynamic tokens -/

namespace Placeholder

/-- Placeholders that stand in a text are the same one, or apart. -/
theorem eq_or_apart {a b : String} {cs : List Char} {i j : Nat} (ha : StandsAt a cs i)
    (hb : StandsAt b cs j) :
    (i = j ∧ a = b) ∨ i + (written a).length ≤ j ∨ j + (written b).length ≤ i :=
  spelled.eq_or_apart written_ne_nil ha hb

/-- A text without dynamic tokens is left as it is, and nothing is drawn. -/
theorem expandDynamic_of_plain {cs : List Char} (h : ∀ t i, ¬ DynamicToken.StandsAt t cs i)
    (d : Draws) : expandDynamic cs d = (cs, d) := by
  obtain ⟨out, hout, htext⟩ := exists_rewriting_expandDynamic cs d
  have hnone : DynamicToken.ahead cs cs.length = 0 := by
    rw [DynamicToken.ahead, List.countP_eq_zero]
    rintro i -
    simpa using fun t => h t i
  rw [htext, hnone, hout.upTo_eq_self]
  · rfl
  · rintro i n v ⟨t, ht, -⟩
    exact h t i ht

/-- Without bound names a text is left as it is. -/
theorem expandNames_of_unbound (enc : Encoding) {ctx : Context} {cs : List Char}
    (h : ∀ name i, StandsAt name cs i → ctx.get? name = none) : expandNames enc ctx cs = cs := by
  refine spelled.expand_eq_self written_ne_nil fun name i hname hstarts => ?_
  rw [Context.text?, h name i ⟨hname, hstarts⟩]
  rfl

end Placeholder

open Placeholder

theorem substitute_eq (enc : Encoding) (ctx : Context) (text : String) (d : Draws) :
    substitute enc ctx text d =
      (String.ofList (expandNames enc ctx (expandDynamic text.toList d).1),
        (expandDynamic text.toList d).2) := rfl

/-- Substitution is simultaneous replacement.  Placeholders do not overlap, and in
a text without dynamic tokens each of them whose name is bound is replaced by the
text of its value; what has been put in stands in the result as it is, and so
does every other character.  The result depends on the context only through the
names that occur, and it is the text itself if none of them is bound. -/
theorem substitute_simultaneous (enc : Encoding) (ctx : Context) (text : String) (draws : Draws)
    (hplain : ∀ t i, ¬ DynamicToken.StandsAt t text.toList i) :
    (∀ a b i j, StandsAt a text.toList i → StandsAt b text.toList j →
      (i = j ∧ a = b) ∨ i + (written a).length ≤ j ∨ j + (written b).length ≤ i) ∧
    (∃ out, Rewriting text.toList (insertions enc ctx text.toList) out ∧
      substitute enc ctx text draws = (String.ofList (upTo out text.toList.length), draws)) ∧
    (∀ ctx', (∀ name i, StandsAt name text.toList i → ctx'.get? name = ctx.get? name) →
      substitute enc ctx' text draws = substitute enc ctx text draws) ∧
    ((∀ name i, StandsAt name text.toList i → ctx.get? name = none) →
      substitute enc ctx text draws = (text, draws)) := by
  have hpass := expandDynamic_of_plain hplain draws
  refine ⟨fun a b i j => eq_or_apart, ?_, fun ctx' hagree => ?_, fun hunbound => ?_⟩
  · obtain ⟨out, hout, htext⟩ := exists_rewriting_expandNames enc ctx text.toList
    exact ⟨out, hout, by rw [substitute_eq, hpass, htext]⟩
  · rw [substitute_eq, substitute_eq, hpass, expandNames_congr enc hagree]
  · rw [substitute_eq, hpass, expandNames_of_unbound enc hunbound, String.ofList_toList]

/-- A value with braces in it, between braces. -/
theorem substitute_simultaneous_braces :
    (∀ t i, ¬ DynamicToken.StandsAt t "\x7b\x7b\x7ba\x7d\x7d\x7d".toList i) ∧
      substitute .plain ((Dict.empty.insert "a" (.string "\x7b\x7bb\x7d\x7d")).insert "b" .null)
          "\x7b\x7b\x7ba\x7d\x7d\x7d" ⟨id, id, 0⟩ =
        ("\x7b\x7b\x7bb\x7d\x7d\x7d", ⟨id, id, 0⟩) := by
  have hplain : ∀ t i, ¬ DynamicToken.StandsAt t "\x7b\x7b\x7ba\x7d\x7d\x7d".toList i := by
    intro t i h
    have hdollar : '$' ∈ t.written := by cases t <;> decide
    exact absurd (List.mem_of_mem_drop (h.subset hdollar)) (by decide)
  obtain ⟨-, -, hagree, -⟩ := substitute_simultaneous .plain
    (Dict.empty.insert "a" (.string "\x7b\x7bb\x7d\x7d")) _ ⟨id, id, 0⟩ hplain
  refine ⟨hplain, (hagree _ fun name i hstands => ?_).trans rfl⟩
  -- the other variable does not occur
  rw [Dict.get?_insert, if_neg]
  rintro rfl
  have hname : 'b' ∈ written "b" := by decide
  exact absurd (List.mem_of_mem_drop (hstands.2.subset hname)) (by decide)

/-! ## with dynamic tokens -/

namespace Placeholder

/-- No dynamic token is left, or made, by the first pass. -/
theorem not_standsAt_expandDynamic (cs : List Char) (d : Draws) (t : DynamicToken) (p : Nat) :
    ¬ t.StandsAt (expandDynamic cs d).1 p := by
  intro hstands
  obtain ⟨out, hout, htext⟩ := exists_rewriting_expandDynamic cs d
  rw [htext, DynamicToken.StandsAt] at hstands
  obtain ⟨body, hbody, -⟩ := t.exists_body
  have hclear : ∀ i n v, DynamicToken.drawings d cs i n v → ¬ Meets out p t.written.length i v := by
    intro i n v hedit hmeets
    obtain ⟨t', -, -, rfl⟩ := id hedit
    have hbrace : ∀ c : Char, c.isAlphanum = false →
        c ∉ (d.skip (DynamicToken.ahead cs i)).value t' := by
      intro c hc hmem
      rw [Draws.isAlphanum_of_mem_value hmem] at hc
      cases hc
    have hclose : t.written.getLast? = some '\x7d' := by cases t <;> decide
    exact Draws.not_value_infix _ _ _ (hout.infix_of_meets hedit hstands hmeets
      (by rw [hbody]; rfl) (hbrace '\x7b' (by decide)) hclose (hbrace '\x7d' (by decide)))
  obtain ⟨i, hi, hapart⟩ := hout.exists_prefix (by rw [hbody]; simp) hstands hclear
  have := hapart i _ _ ⟨t, hi, rfl, rfl⟩
  rw [hbody, List.length_cons] at this
  omega

end Placeholder

/-- Dynamic tokens are replaced first, each by a value drawn for it alone, which
reads the same in every encoding; this makes a text that has none.  The result is
what substitution makes of that text, whatever is drawn later: a token in the
value of a variable stays as it is, and one that stands in the result meets the
place of a placeholder that was replaced.  Variables whose name begins with a
dollar sign have no influence. -/
theorem substitute_dynamic (text : String) (draws : Draws) :
    ∃ (expanded : String) (fresh : Nat → List Char),
      Rewriting text.toList (DynamicToken.drawings draws text.toList) fresh ∧
      expanded = String.ofList (upTo fresh text.toList.length) ∧
      (∀ t i, ¬ DynamicToken.StandsAt t expanded.toList i) ∧
      ∀ enc ctx,
        (∀ t d, enc.apply (Draws.value d t) = d.value t) ∧
        (∃ out, Rewriting expanded.toList (insertions enc ctx expanded.toList) out ∧
          substitute enc ctx text draws = (String.ofList (upTo out expanded.toList.length),
            draws.skip (DynamicToken.ahead text.toList text.toList.length)) ∧
          ∀ t p, DynamicToken.StandsAt t (upTo out expanded.toList.length) p →
            ∃ i n v, insertions enc ctx expanded.toList i n v ∧ Meets out p t.written.length i v) ∧
        (∀ later, substitute enc ctx expanded later = ((substitute enc ctx text draws).1, later)) ∧
        ∀ ctx', (∀ name, name.toList.head? ≠ some '$' → ctx'.get? name = ctx.get? name) →
          substitute enc ctx' text draws = substitute enc ctx text draws := by
  obtain ⟨fresh, hfresh, hpass⟩ := exists_rewriting_expandDynamic text.toList draws
  have hplain : ∀ t i, ¬ DynamicToken.StandsAt t (upTo fresh text.toList.length) i := by
    intro t i
    have hnone := not_standsAt_expandDynamic text.toList draws t i
    rwa [hpass] at hnone
  refine ⟨_, fresh, hfresh, rfl, by simpa using hplain, fun enc ctx => ⟨?_, ?_, ?_, ?_⟩⟩
  · exact fun t d => enc.apply_of_isAlphanum fun c => Draws.isAlphanum_of_mem_value
  · simp only [String.toList_ofList]
    obtain ⟨out, hout, htext⟩ :=
      exists_rewriting_expandNames enc ctx (upTo fresh text.toList.length)
    refine ⟨out, hout, by rw [substitute_eq, hpass, htext], fun t p hstands => ?_⟩
    by_contra hclear
    simp only [not_exists, not_and] at hclear
    obtain ⟨i, hi, -⟩ := hout.exists_prefix (by cases t <;> decide) hstands hclear
    exact hplain t i hi
  · intro later
    rw [substitute_eq, substitute_eq, String.toList_ofList, expandDynamic_of_plain hplain later,
      hpass]
  · intro ctx' hagree
    rw [substitute_eq, substitute_eq,
      expandNames_congr enc fun name i hstands => hagree name hstands.1.plain]

/-! ## in the query form -/

namespace Placeholder

/-- Each placeholder whose name is bound is taken out. -/
def deletions (ctx : Context) : List Char → Edits :=
  replacements fun name => (ctx.text? name).map fun _ => []

theorem exists_insertions_iff {enc : Encoding} {ctx : Context} {cs : List Char} {i n : Nat} :
    (∃ v, insertions enc ctx cs i n v) ↔ ∃ v, deletions ctx cs i n v := by
  simp only [insertions, deletions, replacements, Option.map_eq_some_iff]
  constructor
  · rintro ⟨v, name, hstands, hn, s, hs, -⟩
    exact ⟨[], name, hstands, hn, s, hs, rfl⟩
  · rintro ⟨v, name, hstands, hn, s, hs, -⟩
    exact ⟨enc.apply s.toList, name, hstands, hn, s, hs, rfl⟩

end Placeholder

/-- In the query form no value delimits anything.  Take out the letters, the
digits and `*-._+%`: then the result is left with the characters of the template,
in their order, behind its dynamic tokens and without its bound placeholders.  And
no value is lost: what stands for a placeholder decodes to the bytes of the text
of its value. -/
theorem substitute_query (ctx : Context) (text : String) (draws : Draws) :
    ∃ (expanded : String) (fresh inserted deleted : Nat → List Char),
      Rewriting text.toList (DynamicToken.drawings draws text.toList) fresh ∧
      expanded = String.ofList (upTo fresh text.toList.length) ∧
      Rewriting expanded.toList (insertions .query ctx expanded.toList) inserted ∧
      Rewriting expanded.toList (deletions ctx expanded.toList) deleted ∧
      (substitute .query ctx text draws).1 =
        String.ofList (upTo inserted expanded.toList.length) ∧
      ((upTo inserted expanded.toList.length).filter fun c => !Encoding.isInert c) =
        ((upTo deleted expanded.toList.length).filter fun c => !Encoding.isInert c) ∧
      ∀ name i value, StandsAt name expanded.toList i → ctx.get? name = some value →
        Encoding.formDecode (inserted i) = Text.bytes value.text := by
  obtain ⟨fresh, hfresh, hpass⟩ := exists_rewriting_expandDynamic text.toList draws
  obtain ⟨inserted, hinserted, htext⟩ :=
    exists_rewriting_expandNames .query ctx (upTo fresh text.toList.length)
  obtain ⟨deleted, hdeleted, -⟩ :
      ∃ out, Rewriting _ (deletions ctx (upTo fresh text.toList.length)) out ∧ _ :=
    exists_rewriting_expand _ _
  refine ⟨_, fresh, inserted, deleted, hfresh, rfl, ?_⟩
  rw [String.toList_ofList]
  refine ⟨hinserted, hdeleted, ?_, ?_, fun name i value hstands hvalue => ?_⟩
  · rw [substitute_eq, hpass, htext]
  · refine hinserted.filter_upTo_eq hdeleted (fun i n => exists_insertions_iff) ?_ ?_
    · rintro i n v ⟨name, -, -, hv⟩
      obtain ⟨s, -, rfl⟩ := Option.map_eq_some_iff.1 hv
      rw [List.filter_eq_nil_iff]
      intro c hc
      simp [Encoding.isInert_of_mem_queryForm hc]
    · rintro i n v ⟨name, -, -, hv⟩
      obtain ⟨s, -, rfl⟩ := Option.map_eq_some_iff.1 hv
      rfl
  · have hedit : insertions .query ctx (upTo fresh text.toList.length) i (written name).length
        (Encoding.queryForm value.text.toList) :=
      ⟨name, hstands, rfl, by simp [Context.text?, hvalue, Encoding.apply]⟩
    rw [hinserted.edited _ _ _ hedit, Encoding.formDecode_queryForm]
    rfl

end HttpChain
