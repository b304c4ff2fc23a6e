import HttpChain.Proofs.Variable.Substitution

/-!
# HttpChain.Proofs.Variable.Front

How a text begins when variables have been put into it.  The two passes of
substitution read a text from its front (`expandDynamic_cons`,
`expandDynamic_written_append`, `expandNames_cons`, `expandNames_written_append`), so
what stands ahead of its first brace stays as it is (`substitute_append`).
The first never changes how a text begins, letters and digits apart
(`head?_expandDynamic`).  The second does so by what it puts in, and also by
putting in nothing (`PutInFront`, `head?_expandNames`).
-/

namespace HttpChain

open Template

namespace Placeholder

/-! ## from the front -/

theorem grammar_cons {c : Char} (h : c ≠ '\x7b') (cs : List Char) : grammar (c :: cs) = none := by
  unfold grammar
  split
  · next heq =>
    cases heq
    exact absurd rfl h
  · rfl

theorem dynamic_cons {c : Char} (h : c ≠ '\x7b') (cs : List Char) : dynamic (c :: cs) = none := by
  unfold dynamic
  split
  · next heq =>
    cases heq
    exact absurd rfl h
  · rfl

/-- Induction along a text that opens with a placeholder or with a character that
stands for itself. -/
@[elab_as_elim]
theorem written_induction {motive : List Char → Prop} (nil : motive [])
    (char : ∀ c cs, grammar (c :: cs) = none → motive cs → motive (c :: cs))
    (written : ∀ name rest, IsName name → motive rest → motive (written name ++ rest))
    (cs : List Char) : motive cs := by
  induction cs using parts_induction grammar with
  | nil => exact nil
  | char c cs hnone ih => exact char c cs hnone ih
  | ref c cs name more hsome ih =>
    obtain ⟨hname, ⟨rest, hrest⟩, hmore⟩ := grammar_eq_some_iff.1 hsome
    have hdrop : cs.drop more = rest := by
      rw [← List.drop_succ_cons (a := c), ← hrest, hmore, List.drop_left]
    rw [← hrest]
    exact written name rest hname (hdrop ▸ ih)

theorem expandDynamic_cons {c : Char} {cs : List Char} (h : dynamic (c :: cs) = none) (d : Draws) :
    expandDynamic (c :: cs) d = (c :: (expandDynamic cs d).1, (expandDynamic cs d).2) := by
  rw [expandDynamic, parts_char h]
  rfl

theorem expandDynamic_written_append (t : DynamicToken) (rest : List Char) (d : Draws) :
    expandDynamic (t.written ++ rest) d =
      (d.value t ++ (expandDynamic rest (d.skip 1)).1, (expandDynamic rest (d.skip 1)).2) := by
  obtain ⟨body, hbody, -⟩ := t.exists_body
  have hlength : body.length + 1 + 1 = t.written.length := by rw [hbody]; rfl
  rw [expandDynamic,
    parts_append (dynamic_eq_some_iff.2 ⟨List.prefix_append _ _, hlength⟩) hlength]
  rfl

variable (enc : Encoding) (ctx : Context)

theorem expandNames_cons {c : Char} {cs : List Char} (h : grammar (c :: cs) = none) :
    expandNames enc ctx (c :: cs) = c :: expandNames enc ctx cs := by
  rw [expandNames, expand, parts_char h]
  rfl

theorem expandNames_written_append {name : String} (hname : IsName name) (rest : List Char) :
    expandNames enc ctx (written name ++ rest) =
      ((ctx.text? name).map fun s => enc.apply s.toList).getD (written name) ++
        expandNames enc ctx rest := by
  rw [expandNames, expand, parts_append (grammar_written_append hname rest)
    (length_written name).symm]
  rfl

/-! ## ahead of the first brace -/

theorem expandDynamic_append {front : List Char} (h : '\x7b' ∉ front) (cs : List Char) (d : Draws) :
    expandDynamic (front ++ cs) d = (front ++ (expandDynamic cs d).1, (expandDynamic cs d).2) := by
  induction front with
  | nil => rfl
  | cons c front ih =>
    rw [List.mem_cons, not_or] at h
    rw [List.cons_append, expandDynamic_cons (dynamic_cons (Ne.symm h.1) _), ih h.2]
    rfl

theorem expandNames_append {front : List Char} (h : '\x7b' ∉ front) (cs : List Char) :
    expandNames enc ctx (front ++ cs) = front ++ expandNames enc ctx cs := by
  induction front with
  | nil => rfl
  | cons c front ih =>
    rw [List.mem_cons, not_or] at h
    rw [List.cons_append, expandNames_cons enc ctx (grammar_cons (Ne.symm h.1) _), ih h.2]
    rfl

/-! ## one brace, and one placeholder -/

/-- A brace that is followed by none opens no placeholder. -/
theorem grammar_brace {c : Char} (h : c ≠ '\x7b') (cs : List Char) :
    grammar ('\x7b' :: c :: cs) = none := by
  unfold grammar
  split
  · next heq =>
    cases heq
    exact absurd rfl h
  · rfl

theorem dynamic_brace {c : Char} (h : c ≠ '\x7b') (cs : List Char) :
    dynamic ('\x7b' :: c :: cs) = none := by
  unfold dynamic
  split
  · next heq =>
    cases heq
    exact absurd rfl h
  · rfl

/-- A placeholder is no dynamic token. -/
theorem dynamic_written_append {name : String} (hname : IsName name) (rest : List Char) :
    dynamic (written name ++ rest) = none := by
  obtain ⟨c, cs, hcs⟩ := List.exists_cons_of_ne_nil hname.ne_nil
  have hplain : c ≠ '$' := by simpa [hcs] using hname.plain
  unfold dynamic
  split
  · next heq =>
    simp only [written, hcs, List.cons_append, List.cons.injEq, true_and] at heq
    exact absurd heq.1 hplain
  · rfl

theorem expandDynamic_name_append {name : String} (hname : IsName name) (rest : List Char)
    (d : Draws) : expandDynamic (written name ++ rest) d =
      (written name ++ (expandDynamic rest d).1, (expandDynamic rest d).2) := by
  have hfront := dynamic_written_append hname rest
  obtain ⟨c, cs, hcs⟩ := List.exists_cons_of_ne_nil hname.ne_nil
  have hopen : '\x7b' ∉ name.toList ++ ['\x7d', '\x7d'] := by
    rw [List.mem_append, not_or]
    exact ⟨fun hmem => (hname.fits _ hmem).1 rfl, by decide⟩
  have hc : c ≠ '\x7b' := (hname.fits c (hcs ▸ List.mem_cons_self)).1
  have hbrace : dynamic ('\x7b' :: ((name.toList ++ ['\x7d', '\x7d']) ++ rest)) = none := by
    rw [hcs]
    exact dynamic_brace hc _
  rw [written, List.cons_append, List.cons_append] at hfront ⊢
  rw [expandDynamic_cons hfront, expandDynamic_cons hbrace, expandDynamic_append hopen]
  rfl

/-! ## the first character -/

/-- Variables put a character in front of a text that does not begin with it.
The text opens with a placeholder, whose value begins with the character or is
empty and lets it come to the front. -/
inductive PutInFront (ctx : Context) (x : Char) : List Char → Prop where
  | value {name text rest} : IsName name → ctx.text? name = some text →
      text.toList.head? = some x → PutInFront ctx x (written name ++ rest)
  | uncovered {name rest} : IsName name → ctx.text? name = some "" →
      PutInFront ctx x (written name ++ x :: rest)
  | empty {name rest} : IsName name → ctx.text? name = some "" →
      PutInFront ctx x rest → PutInFront ctx x (written name ++ rest)

/-- A text opens with one placeholder at most. -/
theorem written_append_inj {a b : String} {rest rest' : List Char} (ha : IsName a) (hb : IsName b)
    (h : written a ++ rest = written b ++ rest') : a = b ∧ rest = rest' := by
  have hgrammar := grammar_written_append ha rest
  rw [h, grammar_written_append hb rest'] at hgrammar
  obtain rfl : b = a := by cases hgrammar; rfl
  exact ⟨rfl, List.append_cancel_left h⟩

namespace PutInFront

variable {ctx : Context} {x : Char}

theorem exists_written {cs : List Char} (h : PutInFront ctx x cs) :
    ∃ name rest, IsName name ∧ cs = written name ++ rest := by
  cases h with
  | value hname => exact ⟨_, _, hname, rfl⟩
  | uncovered hname => exact ⟨_, _, hname, rfl⟩
  | empty hname => exact ⟨_, _, hname, rfl⟩

/-- A text does not open with a placeholder where none is read. -/
theorem not_of_grammar {cs : List Char} (h : grammar cs = none) : ¬ PutInFront ctx x cs := by
  intro hfront
  obtain ⟨name, rest, hname, rfl⟩ := hfront.exists_written
  rw [grammar_written_append hname] at h
  cases h

/-- What the first placeholder of a text decides. -/
theorem written_append_iff {name : String} {rest : List Char} (hname : IsName name) :
    PutInFront ctx x (written name ++ rest) ↔ ∃ text, ctx.text? name = some text ∧
      (text.toList.head? = some x ∨ text = "" ∧ (rest.head? = some x ∨ PutInFront ctx x rest)) := by
  constructor
  · intro h
    generalize hcs : written name ++ rest = cs at h
    cases h with
    | value hother htext hhead =>
      obtain ⟨rfl, rfl⟩ := written_append_inj hname hother hcs
      exact ⟨_, htext, .inl hhead⟩
    | uncovered hother htext =>
      obtain ⟨rfl, rfl⟩ := written_append_inj hname hother hcs
      exact ⟨_, htext, .inr ⟨rfl, .inl rfl⟩⟩
    | empty hother htext hrest =>
      obtain ⟨rfl, rfl⟩ := written_append_inj hname hother hcs
      exact ⟨_, htext, .inr ⟨rfl, .inr hrest⟩⟩
  · rintro ⟨text, htext, hhead | ⟨rfl, hhead | hrest⟩⟩
    · exact .value hname htext hhead
    · obtain ⟨rest, rfl⟩ := List.head?_eq_some_iff.1 hhead
      exact .uncovered hname htext
    · exact .empty hname htext hrest

end PutInFront

/-- The first pass never changes how a text begins, letters and digits apart. -/
theorem head?_expandDynamic {x : Char} (hx : x.isAlphanum = false) (hopen : x ≠ '\x7b')
    (cs : List Char) (d : Draws) :
    (expandDynamic cs d).1.head? = some x ↔ cs.head? = some x := by
  cases cs with
  | nil => exact Iff.rfl
  | cons c cs =>
    cases hdynamic : dynamic (c :: cs) with
    | none => rw [expandDynamic_cons hdynamic, List.head?_cons, List.head?_cons]
    | some found =>
      obtain ⟨t, more⟩ := found
      obtain ⟨⟨rest, hrest⟩, -⟩ := dynamic_eq_some_iff.1 hdynamic
      obtain ⟨body, hbody, -⟩ := t.exists_body
      obtain ⟨v, vs, hvalue⟩ := List.exists_cons_of_ne_nil (d.value_ne_nil t)
      have hv : v ≠ x := by
        rintro rfl
        rw [Draws.isAlphanum_of_mem_value (hvalue ▸ List.mem_cons_self)] at hx
        cases hx
      rw [← hrest, expandDynamic_written_append, hbody, hvalue]
      simp [hv, hopen.symm]

/-- What a text begins with after the second pass, it has begun with before or has
been put in front of it. -/
theorem head?_expandNames (ctx : Context) {x : Char} (hopen : x ≠ '\x7b') (cs : List Char) :
    (expandNames .plain ctx cs).head? = some x ↔ cs.head? = some x ∨ PutInFront ctx x cs := by
  have hwritten : ∀ name rest, (written name ++ rest).head? ≠ some x := fun name rest h =>
    hopen (Option.some.inj h).symm
  induction cs using written_induction with
  | nil =>
    refine ⟨Or.inl, Or.rec id fun h => ?_⟩
    exact absurd h (PutInFront.not_of_grammar rfl)
  | char c cs hnone ih =>
    rw [expandNames_cons .plain ctx hnone, List.head?_cons, List.head?_cons,
      or_iff_left (PutInFront.not_of_grammar hnone)]
  | written name rest hname ih =>
    rw [expandNames_written_append .plain ctx hname, PutInFront.written_append_iff hname,
      or_iff_right (hwritten name rest)]
    cases htext : ctx.text? name with
    | none => simpa using hwritten name _
    | some text =>
      by_cases hempty : text = ""
      · simp [hempty, Encoding.apply, ih]
      · obtain ⟨c, cs, hcs⟩ := List.exists_cons_of_ne_nil (l := text.toList) (by simpa using hempty)
        simp [hempty, Encoding.apply, hcs]

end Placeholder

open Placeholder

/-- A placeholder alone becomes the text of the variable it names. -/
theorem substitute_written (enc : Encoding) {ctx : Context} {name text : String}
    (hname : IsName name) (htext : ctx.text? name = some text) (d : Draws) :
    substitute enc ctx (String.ofList (written name)) d =
      (String.ofList (enc.apply text.toList), d) := by
  have hdynamic := expandDynamic_name_append hname [] d
  have hnames := expandNames_written_append enc ctx hname []
  rw [List.append_nil] at hdynamic hnames
  rw [substitute_eq, String.toList_ofList, hdynamic]
  show (String.ofList (expandNames enc ctx (written name ++ [])), d) = _
  rw [List.append_nil, hnames, htext]
  exact congrArg (fun cs => (String.ofList cs, d)) (List.append_nil _)

theorem substitute_written_plain {ctx : Context} {name text : String} (hname : IsName name)
    (htext : ctx.text? name = some text) (d : Draws) :
    substitute .plain ctx (String.ofList (written name)) d = (text, d) := by
  rw [substitute_written .plain hname htext, Encoding.apply, String.ofList_toList]

theorem not_opens_of_not_mem {cs : List Char} (h : '\x7b' ∉ cs) : ¬ ['\x7b', '\x7b'] <:+: cs :=
  fun hsub => h (hsub.subset List.mem_cons_self)

/-- A text without two opening braces side by side stays as it is. -/
theorem substitute_of_not_opens (enc : Encoding) (ctx : Context) {text : String}
    (h : ¬ ['\x7b', '\x7b'] <:+: text.toList) (d : Draws) :
    substitute enc ctx text d = (text, d) := by
  have hopens : ∀ {cs : List Char} {i : Nat}, ['\x7b', '\x7b'] <+: cs → ¬ cs <+: text.toList.drop i :=
    fun hcs hstarts => h ((hcs.trans hstarts).isInfix.trans (List.drop_suffix _ _).isInfix)
  rw [substitute_eq, expandDynamic_of_plain, expandNames_of_unbound, String.ofList_toList]
  · intro name i hstands
    exact absurd hstands.2 (hopens ⟨_, rfl⟩)
  · intro t i hstands
    obtain ⟨body, hbody, -⟩ := t.exists_body
    exact hopens ⟨body, hbody.symm⟩ hstands

/-- What stands ahead of the first brace of a text stays there, and values are put in
behind it as if it were not there. -/
theorem substitute_append (enc : Encoding) (ctx : Context) {front : List Char}
    (h : '\x7b' ∉ front) (rest : List Char) (d : Draws) :
    substitute enc ctx (String.ofList (front ++ rest)) d =
      (String.ofList (front ++ (substitute enc ctx (String.ofList rest) d).1.toList),
        (substitute enc ctx (String.ofList rest) d).2) := by
  simp only [substitute_eq, String.toList_ofList, expandDynamic_append h, expandNames_append enc ctx h]

end HttpChain
