import HttpChain.Proofs.Variable.References
import HttpChain.Variable.Substitution

/-!
# HttpChain.Proofs.Variable.Placeholder

What placeholders and dynamic tokens look like and where they stand in a text,
whatever is around them.  Both open with two braces and hold no further opening
brace, so neither begins inside another one of its kind, and each of the two
passes over a template replaces all that it is about at once: dynamic tokens by
values drawn for them in order (`exists_rewriting_expandDynamic`), placeholders
by the text of the variables that they name (`exists_rewriting_expandNames`).
-/

namespace HttpChain

open Template

/-! ## opening braces -/

/-- Behind two opening braces, a text without any does not open again. -/
theorem not_opens_drop {body : List Char} (hne : body ≠ []) (hbody : '\x7b' ∉ body)
    (rest : List Char) {k : Nat} (hpos : 0 < k) (hk : k < body.length + 2) :
    ¬ ['\x7b', '\x7b'] <+: ('\x7b' :: '\x7b' :: (body ++ rest)).drop k := by
  match k with
  | 1 =>
    obtain ⟨b, bs, rfl⟩ := List.exists_cons_of_ne_nil hne
    rw [List.mem_cons, not_or] at hbody
    simp [List.cons_prefix_cons, hbody.1]
  | m + 2 =>
    have hm : m < body.length := by omega
    rw [List.drop_succ_cons, List.drop_succ_cons, List.drop_append_of_le_length (Nat.le_of_lt hm),
      List.drop_eq_getElem_cons hm, List.cons_append, List.cons_prefix_cons]
    exact fun h => hbody (h.1 ▸ List.getElem_mem hm)

/-! ## placeholders -/

namespace Placeholder

/-- What a placeholder can name: characters that are neither braces nor blanks,
at least one, and the first of them no dollar sign. -/
structure IsName (name : String) : Prop where
  ne_nil : name.toList ≠ []
  fits : ∀ c ∈ name.toList, c ≠ '\x7b' ∧ c ≠ '\x7d' ∧ Text.isBlank c = false
  plain : name.toList.head? ≠ some '$'

/-- The placeholder of a name. -/
def written (name : String) : List Char :=
  '\x7b' :: '\x7b' :: (name.toList ++ ['\x7d', '\x7d'])

/-- The placeholder of a name stands at a place of a text. -/
def StandsAt (name : String) (cs : List Char) (i : Nat) : Prop :=
  IsName name ∧ written name <+: cs.drop i

theorem isNameChar_iff {c : Char} :
    isNameChar c = true ↔ c ≠ '\x7b' ∧ c ≠ '\x7d' ∧ Text.isBlank c = false := by
  simp [isNameChar, and_assoc]

theorem isName_iff_all {name : String} : IsName name ↔
    name.toList ≠ [] ∧ name.toList.all isNameChar = true ∧ name.toList.head? ≠ some '$' := by
  simp only [List.all_eq_true, isNameChar_iff]
  exact ⟨fun h => ⟨h.ne_nil, h.fits, h.plain⟩, fun h => ⟨h.1, h.2.1, h.2.2⟩⟩

instance : DecidablePred IsName := fun _ => decidable_of_iff _ isName_iff_all.symm

theorem length_written (name : String) : (written name).length = name.toList.length + 4 := by
  simp [written]

theorem written_ne_nil (name : String) : written name ≠ [] := List.cons_ne_nil _ _

/-- Whatever is read as a reference is the placeholder of its name. -/
theorem starts_of_grammar {cs : List Char} {name : String} {more : Nat}
    (h : grammar cs = some (name, more)) :
    IsName name ∧ written name <+: cs ∧ more + 1 = (written name).length := by
  unfold grammar at h
  split at h
  · next cs =>
    dsimp only at h
    split at h
    · next c ds rest htake hdrop =>
      split at h
      · cases h
      · next hplain =>
        cases h
        have hall : ∀ d ∈ c :: ds, isNameChar d = true := fun d hd =>
          List.all_eq_true.1 List.all_takeWhile d (htake ▸ hd)
        have hsplit : cs = c :: ds ++ '\x7d' :: '\x7d' :: rest := by
          rw [← htake, ← hdrop, List.takeWhile_append_dropWhile]
        refine ⟨⟨?_, fun d hd => ?_, ?_⟩, ⟨rest, ?_⟩, ?_⟩
        · simp [htake]
        · rw [String.toList_ofList, htake] at hd
          exact isNameChar_iff.1 (hall d hd)
        · simpa [htake] using hplain
        · rw [written, String.toList_ofList, htake, hsplit]
          simp
        · simp [length_written]
    · cases h
  · cases h

/-- The placeholder of a name is read as a reference, whatever follows. -/
theorem grammar_written_append {name : String} (hname : IsName name) (rest : List Char) :
    grammar (written name ++ rest) = some (name, name.toList.length + 3) := by
  have hall : ∀ c ∈ name.toList, isNameChar c = true := fun c hc =>
    isNameChar_iff.2 (hname.fits c hc)
  obtain ⟨c, ds, hcs⟩ := List.exists_cons_of_ne_nil hname.ne_nil
  have hplain : c ≠ '$' := by simpa [hcs] using hname.plain
  have hclose : isNameChar '\x7d' = false := by decide
  have htake : (name.toList ++ '\x7d' :: '\x7d' :: rest).takeWhile isNameChar = c :: ds := by
    rw [List.takeWhile_append_of_pos hall, List.takeWhile_cons_of_neg (by simp [hclose]),
      List.append_nil, hcs]
  have hdrop : (name.toList ++ '\x7d' :: '\x7d' :: rest).dropWhile isNameChar =
      '\x7d' :: '\x7d' :: rest := by
    rw [List.dropWhile_append_of_pos hall, List.dropWhile_cons_of_neg (by simp [hclose])]
  have hgrammar : grammar (written name ++ rest) =
      some (String.ofList (c :: ds), (c :: ds).length + 3) := by
    simp only [written, List.cons_append, List.append_assoc, List.nil_append, grammar, htake,
      hdrop, if_neg hplain]
  rw [hgrammar, ← hcs, String.ofList_toList]

theorem grammar_eq_some_iff {cs : List Char} {name : String} {more : Nat} :
    grammar cs = some (name, more) ↔
      IsName name ∧ written name <+: cs ∧ more + 1 = (written name).length := by
  refine ⟨starts_of_grammar, ?_⟩
  rintro ⟨hname, ⟨rest, rfl⟩, hmore⟩
  rw [length_written] at hmore
  rw [grammar_written_append hname, show more = name.toList.length + 3 by omega]

theorem spelled : Spelled grammar IsName written where
  eq_some_iff := grammar_eq_some_iff
  apart {name other k} rest hname hpos hk hstarts := by
    have hopens : ['\x7b', '\x7b'] <+: written other := ⟨_, rfl⟩
    have hne : name.toList ++ ['\x7d', '\x7d'] ≠ [] := by simp
    have hopen : '\x7b' ∉ name.toList ++ ['\x7d', '\x7d'] := by
      rw [List.mem_append, not_or]
      exact ⟨fun hmem => (hname.fits _ hmem).1 rfl, by decide⟩
    refine not_opens_drop hne hopen rest hpos ?_ (hopens.trans hstarts)
    rw [length_written] at hk
    simp only [List.length_append, List.length_cons, List.length_nil]
    omega

end Placeholder

/-! ## dynamic tokens -/

namespace DynamicToken

/-- The text of a dynamic token. -/
def written : DynamicToken → List Char
  | timestamp => "\x7b\x7b$timestamp\x7d\x7d".toList
  | uuid => "\x7b\x7b$uuid\x7d\x7d".toList

/-- A dynamic token stands at a place of a text. -/
def StandsAt (t : DynamicToken) (cs : List Char) (i : Nat) : Prop := t.written <+: cs.drop i

instance (t : DynamicToken) (cs : List Char) (i : Nat) : Decidable (t.StandsAt cs i) :=
  inferInstanceAs (Decidable (t.written <+: cs.drop i))

/-- The letters of a token and its closing braces, behind its opening ones. -/
theorem exists_body (t : DynamicToken) : ∃ body, t.written = '\x7b' :: '\x7b' :: body ∧
    body ≠ [] ∧ '\x7b' ∉ body := by
  cases t
  · exact ⟨"$timestamp\x7d\x7d".toList, rfl, by decide, by decide⟩
  · exact ⟨"$uuid\x7d\x7d".toList, rfl, by decide, by decide⟩

/-- A text without dollar signs has no dynamic token. -/
theorem not_standsAt_of_not_mem {cs : List Char} (h : '$' ∉ cs) (t : DynamicToken) (i : Nat) :
    ¬ t.StandsAt cs i := by
  intro hstands
  have hdollar : '$' ∈ t.written := by cases t <;> decide
  exact h (List.mem_of_mem_drop (hstands.subset hdollar))

end DynamicToken

namespace Placeholder

theorem dynamic_eq_some_iff {cs : List Char} {t : DynamicToken} {more : Nat} :
    dynamic cs = some (t, more) ↔ t.written <+: cs ∧ more + 1 = t.written.length := by
  constructor
  · intro h
    unfold dynamic at h
    split at h
    · next cs =>
      split at h
      · next rest hrest =>
        cases h
        rw [Text.after?_eq_some_iff.1 hrest]
        exact ⟨⟨rest, rfl⟩, rfl⟩
      · next rest hrest _ =>
        cases h
        rw [Text.after?_eq_some_iff.1 hrest]
        exact ⟨⟨rest, rfl⟩, rfl⟩
      · cases h
    · cases h
  · rintro ⟨⟨rest, rfl⟩, hmore⟩
    cases t
    · obtain rfl : more = 13 := Nat.succ.inj hmore
      rfl
    · obtain rfl : more = 8 := Nat.succ.inj hmore
      rfl

theorem spelled_dynamic : Spelled dynamic (fun _ => True) DynamicToken.written where
  eq_some_iff := dynamic_eq_some_iff.trans (iff_of_eq (true_and _).symm)
  apart {t other k} rest _ hpos hk hstarts := by
    obtain ⟨body, hbody, hne, hopen⟩ := t.exists_body
    obtain ⟨body', hbody', -⟩ := other.exists_body
    have hopens : ['\x7b', '\x7b'] <+: other.written := ⟨body', hbody'.symm⟩
    rw [hbody] at hk hstarts
    exact not_opens_drop hne hopen rest hpos hk (hopens.trans hstarts)

/-- Dynamic tokens do not overlap. -/
theorem separate_dynamic : Separate dynamic := spelled_dynamic.separate

theorem exists_dynamic_iff {cs : List Char} {i n : Nat} {t : DynamicToken} :
    (∃ more, dynamic (cs.drop i) = some (t, more) ∧ n = more + 1) ↔
      t.StandsAt cs i ∧ n = t.written.length := by
  simpa [DynamicToken.StandsAt] using
    spelled_dynamic.exists_iff fun t => by cases t <;> decide

end Placeholder

/-! ## the two passes -/

/-- The source of values after a number of draws. -/
def Draws.skip (d : Draws) (k : Nat) : Draws := { d with taken := d.taken + k }

theorem Draws.skip_skip (d : Draws) (m n : Nat) : (d.skip m).skip n = d.skip (m + n) := by
  simp [skip, Nat.add_assoc]

namespace DynamicToken

instance (cs : List Char) (i : Nat) : Decidable (∃ t : DynamicToken, t.StandsAt cs i) :=
  decidable_of_iff (timestamp.StandsAt cs i ∨ uuid.StandsAt cs i) (by
    constructor
    · rintro (h | h)
      · exact ⟨_, h⟩
      · exact ⟨_, h⟩
    · rintro ⟨_ | _, h⟩
      · exact .inl h
      · exact .inr h)

/-- The number of dynamic tokens ahead of a place. -/
def ahead (cs : List Char) (i : Nat) : Nat :=
  (List.range i).countP fun j => ∃ t : DynamicToken, t.StandsAt cs j

/-- Each dynamic token is replaced by the value that is drawn for it: the tokens
ahead of it have taken one value each. -/
def drawings (d : Draws) (cs : List Char) : Edits := fun i n v =>
  ∃ t : DynamicToken, t.StandsAt cs i ∧ n = t.written.length ∧ v = (d.skip (ahead cs i)).value t

theorem ahead_eq (cs : List Char) (i : Nat) :
    ahead cs i = Template.ahead Placeholder.dynamic cs i := by
  rw [ahead, Template.ahead]
  refine List.countP_congr fun j _ => ?_
  simp only [decide_eq_true_eq, Option.isSome_iff_exists, Prod.exists]
  constructor
  · rintro ⟨t, ht⟩
    obtain ⟨more, hmore, -⟩ := Placeholder.exists_dynamic_iff.2 ⟨ht, rfl⟩
    exact ⟨t, more, hmore⟩
  · rintro ⟨t, more, hmore⟩
    exact ⟨t, (Placeholder.exists_dynamic_iff.1 ⟨more, hmore, rfl⟩).1⟩

end DynamicToken

namespace Placeholder

theorem expandDynamic_eq (cs : List Char) (d : Draws) :
    expandDynamic cs d =
      (fillInOrder (fun k t => some ((d.skip k).value t)) (parts dynamic cs),
        d.skip (targets dynamic cs).length) := by
  induction cs using parts_induction dynamic generalizing d with
  | nil => rfl
  | char c cs hnone ih =>
    rw [expandDynamic] at ih
    rw [expandDynamic, targets, parts_char hnone, drawAll, Drawing.bind_apply, ih]
    rfl
  | ref c cs t more hsome ih =>
    rw [expandDynamic] at ih
    have hdraw : (t.draw d).2 = d.skip 1 := rfl
    rw [expandDynamic, targets, parts_ref hsome, drawAll, Drawing.bind_apply, Drawing.bind_apply,
      hdraw, ih, fillInOrder]
    simp only [Draws.skip_skip, Nat.add_comm 1]
    rfl

/-- The first pass replaces all dynamic tokens at once. -/
theorem exists_rewriting_expandDynamic (cs : List Char) (d : Draws) :
    ∃ out, Rewriting cs (DynamicToken.drawings d cs) out ∧
      expandDynamic cs d = (upTo out cs.length, d.skip (DynamicToken.ahead cs cs.length)) := by
  obtain ⟨out, hout, htext⟩ :=
    separate_dynamic.exists_rewriting (fun k t => some ((d.skip k).value t)) cs
  refine ⟨out, hout.congr fun i n v => ?_, ?_⟩
  · simp only [DynamicToken.drawings, references, exists_dynamic_iff, DynamicToken.ahead_eq,
      Option.some.injEq, and_assoc, eq_comm (a := v)]
  · rw [expandDynamic_eq, htext, separate_dynamic.length_targets, DynamicToken.ahead_eq]

/-- Each placeholder whose name has a value is replaced by it. -/
def replacements (value : String → Option (List Char)) (cs : List Char) : Edits := fun i n v =>
  ∃ name, StandsAt name cs i ∧ n = (written name).length ∧ value name = some v

/-- Placeholders are replaced all at once. -/
theorem exists_rewriting_expand (value : String → Option (List Char)) (cs : List Char) :
    ∃ out, Rewriting cs (replacements value cs) out ∧
      upTo out cs.length = expand grammar value cs :=
  spelled.exists_rewriting_expand written_ne_nil value cs

/-- Each placeholder whose name is bound is replaced by the text of its value. -/
def insertions (enc : Encoding) (ctx : Context) : List Char → Edits :=
  replacements fun name => (ctx.text? name).map fun s => enc.apply s.toList

/-- The second pass replaces all bound placeholders at once. -/
theorem exists_rewriting_expandNames (enc : Encoding) (ctx : Context) (cs : List Char) :
    ∃ out, Rewriting cs (insertions enc ctx cs) out ∧
      upTo out cs.length = expandNames enc ctx cs :=
  exists_rewriting_expand _ cs

/-- The second pass asks a context for the names that occur, and no others. -/
theorem expandNames_congr (enc : Encoding) {ctx ctx' : Context} {cs : List Char}
    (h : ∀ name i, StandsAt name cs i → ctx'.get? name = ctx.get? name) :
    expandNames enc ctx' cs = expandNames enc ctx cs := by
  refine spelled.expand_congr written_ne_nil fun name i hname hstarts => ?_
  rw [Context.text?, Context.text?, h name i ⟨hname, hstarts⟩]

end Placeholder

end HttpChain
