import HttpChain.Proofs.Json.Number

/-!
# HttpChain.Proofs.Json.Grammar

The texts of JSON values, as a grammar (`Spells`): tokens, and containers whose elements
stand between commas, with blanks around them or none.  Whatever the grammar spells is
read as the value that it spells, whatever follows (`value?_of_spells`, `read?_of_spells`).
-/

namespace HttpChain.Json

open Text

/-! ## strings -/

/-- A hexadecimal digit in a small letter is read as its value. -/
theorem hexValue?_lowerHex : ∀ n < 16, hexValue? (lowerHex n) = some n := by decide

/-- The escape of a control character names it. -/
theorem escape?_control {c : Char} (h : c.toNat < 0x20) (cs : List Char) :
    escape? ('u' :: '0' :: '0' :: lowerHex (c.toNat / 16) :: lowerHex (c.toNat % 16) :: cs) =
      some (c, cs) := by
  have hzero : hexValue? '0' = some 0 := by decide
  have hhigh := hexValue?_lowerHex (c.toNat / 16) (by omega)
  have hlow := hexValue?_lowerHex (c.toNat % 16) (by omega)
  have hunit : ((0 * 16 + 0) * 16 + c.toNat / 16) * 16 + c.toNat % 16 = c.toNat := by omega
  have hread : unit? ('0' :: '0' :: lowerHex (c.toNat / 16) :: lowerHex (c.toNat % 16) :: cs) =
      some (c.toNat, cs) := by
    simp only [unit?, hzero, hhigh, hlow, Option.bind_eq_bind, Option.bind_some, hunit]
    rfl
  rw [escape?, hread]
  simp only [Option.bind_eq_bind, Option.bind_some]
  rw [if_neg (by omega), if_neg (by omega)]
  exact congrArg (fun d => some (d, cs)) (Char.ofNat_toNat c)

/-- A character inside quotes is read from the form in which it is written. -/
theorem characters_escapeChar (fuel : Nat) (c : Char) (cs : List Char) :
    characters (fuel + 1) (escapeChar c ++ cs) =
      (characters fuel cs).map fun s => (c :: s.1, s.2) := by
  have hescape {e : List Char} (h : escape? (e ++ cs) = some (c, cs)) :
      characters (fuel + 1) ('\\' :: (e ++ cs)) =
        (characters fuel cs).map fun s => (c :: s.1, s.2) := by
    rw [characters, if_neg (by decide), if_pos rfl, h]
    simp only [Option.bind_eq_bind, Option.bind_some]
    cases characters fuel cs <;> rfl
  unfold escapeChar
  split
  · next hc => exact hescape (e := ['"']) (by rw [hc]; rfl)
  split
  · next hc => exact hescape (e := ['\\']) (by rw [hc]; rfl)
  split
  · next hc => exact hescape (e := ['n']) (by rw [hc]; rfl)
  split
  · next hc => exact hescape (e := ['r']) (by rw [hc]; rfl)
  split
  · next hc => exact hescape (e := ['t']) (by rw [hc]; rfl)
  split
  · next hc => exact hescape (e := ['b']) (by rw [hc]; rfl)
  split
  · next hc => exact hescape (e := ['f']) (by rw [hc]; rfl)
  split
  · next hc => exact hescape (e := ['u', '0', '0', _, _]) (escape?_control hc cs)
  · next hquote hslash _ _ _ _ _ hcontrol =>
    rw [List.singleton_append, characters, if_neg hquote, if_neg hslash, if_neg hcontrol]
    cases characters fuel cs <;> rfl

/-- Characters in the forms in which they are written are read up to the closing quote. -/
theorem characters_flatMap_escapeChar {fuel : Nat} {s : List Char} (h : s.length < fuel)
    (rest : List Char) :
    characters fuel (s.flatMap escapeChar ++ '"' :: rest) = some (s, rest) := by
  induction s generalizing fuel with
  | nil =>
    cases fuel with
    | zero => cases h
    | succ fuel => rfl
  | cons c s ih =>
    cases fuel with
    | zero => cases h
    | succ fuel =>
      rw [List.flatMap_cons, List.append_assoc, characters_escapeChar, ih (by simpa using h)]
      rfl

theorem escapeChar_ne_nil (c : Char) : escapeChar c ≠ [] := by
  unfold escapeChar
  repeat' split
  all_goals exact List.cons_ne_nil _ _

/-- Escaping makes no text shorter, which is why the fuel lasts. -/
theorem length_le_length_flatMap_escapeChar (s : List Char) :
    s.length ≤ (s.flatMap escapeChar).length := by
  induction s with
  | nil => exact Nat.le_refl 0
  | cons c s ih =>
    have hc := List.length_pos_iff.2 (escapeChar_ne_nil c)
    rw [List.flatMap_cons, List.length_append, List.length_cons]
    omega

/-- A string is read from the form in which it is written, whatever follows. -/
theorem quoted?_quote (s : String) (rest : List Char) :
    quoted? (s.toList.flatMap escapeChar ++ '"' :: rest) = some (s, rest) := by
  have hlength := length_le_length_flatMap_escapeChar s.toList
  have hread : characters ((s.toList.flatMap escapeChar ++ '"' :: rest).length + 1)
      (s.toList.flatMap escapeChar ++ '"' :: rest) = some (s.toList, rest) := by
    refine characters_flatMap_escapeChar ?_ rest
    rw [List.length_append, List.length_cons]
    omega
  simp only [quoted?, hread, Option.map_some, String.ofList_toList]

/-! ## blanks -/

/-- Blanks alone. -/
def Blank (cs : List Char) : Prop := ∀ c ∈ cs, isSpace c = true

theorem Blank.nil : Blank [] := nofun

/-- Blanks in front are skipped, and what follows as far as it is blank. -/
theorem skipSpace_append {b : List Char} (h : Blank b) (cs : List Char) :
    skipSpace (b ++ cs) = skipSpace cs := List.dropWhile_append_of_pos h

theorem skipSpace_cons {c : Char} (h : isSpace c = false) (cs : List Char) :
    skipSpace (c :: cs) = c :: cs := List.dropWhile_cons_of_neg (by simp [h])

/-- Blanks do not carry on a number. -/
theorem Ends.blank_append {b rest : List Char} (hb : Blank b) (h : Ends rest) :
    Ends (b ++ rest) := by
  cases b with
  | nil => exact h
  | cons c b =>
    have hspace : ∀ c, isSpace c = true → isDigit c = false ∧ c ≠ '.' ∧ c ≠ 'e' ∧ c ≠ 'E' := by
      intro c hc
      simp only [isSpace, Bool.or_eq_true, beq_iff_eq] at hc
      rcases hc with ((rfl | rfl) | rfl) | rfl <;> decide
    exact .cons (hspace c (hb c List.mem_cons_self))

/-! ## the grammar -/

/-- The texts of values without others in them. -/
inductive Token : Json → List Char → Prop where
  | null : Token .null (leaf .null)
  | bool (b : Bool) : Token (.bool b) (leaf (.bool b))
  | number {l : Literal} {v : Json} {cs : List Char} (hl : Literal.read? cs = some (l, []))
      (hv : l.value? = some v) : Token v cs
  | string (s : String) : Token (.string s) (quote s)

mutual

/-- The texts of a value whose containers nest at most so deep. -/
inductive Spells : Nat → Json → List Char → Prop where
  | token {depth : Nat} {v : Json} {cs : List Char} (h : Token v cs) : Spells depth v cs
  | emptyArray {depth : Nat} {b : List Char} (hb : Blank b) :
      Spells (depth + 1) (.array []) ('[' :: (b ++ [']']))
  | array {depth : Nat} {vs : List Json} {b cs : List Char} (hb : Blank b)
      (h : SpellsItems depth vs cs) : Spells (depth + 1) (.array vs) ('[' :: (b ++ cs ++ [']']))
  | emptyObject {depth : Nat} {b : List Char} (hb : Blank b) :
      Spells (depth + 1) (.object []) ('\x7b' :: (b ++ ['\x7d']))
  | object {depth : Nat} {ms : List (String × Json)} {b cs : List Char} (hb : Blank b)
      (h : SpellsMembers depth ms cs) :
      Spells (depth + 1) (.object (Assoc.ofList ms)) ('\x7b' :: (b ++ cs ++ ['\x7d']))

/-- The texts of elements. -/
inductive SpellsItems : Nat → List Json → List Char → Prop where
  | one {depth : Nat} {v : Json} {cs b : List Char} (h : Spells depth v cs) (hb : Blank b) :
      SpellsItems depth [v] (cs ++ b)
  | cons {depth : Nat} {v : Json} {vs : List Json} {cs b b' more : List Char}
      (h : Spells depth v cs) (hb : Blank b) (hb' : Blank b') (hmore : SpellsItems depth vs more) :
      SpellsItems depth (v :: vs) (cs ++ b ++ ',' :: (b' ++ more))

/-- The texts of members. -/
inductive SpellsMembers : Nat → List (String × Json) → List Char → Prop where
  | one {depth : Nat} {name : String} {v : Json} {b₁ b₂ cs b₃ : List Char} (hb₁ : Blank b₁)
      (hb₂ : Blank b₂) (h : Spells depth v cs) (hb₃ : Blank b₃) :
      SpellsMembers depth [(name, v)] (quote name ++ b₁ ++ ':' :: (b₂ ++ cs ++ b₃))
  | cons {depth : Nat} {name : String} {v : Json} {ms : List (String × Json)}
      {b₁ b₂ cs b₃ b₄ more : List Char} (hb₁ : Blank b₁) (hb₂ : Blank b₂) (h : Spells depth v cs)
      (hb₃ : Blank b₃) (hb₄ : Blank b₄) (hmore : SpellsMembers depth ms more) :
      SpellsMembers depth ((name, v) :: ms)
        (quote name ++ b₁ ++ ':' :: (b₂ ++ cs ++ b₃ ++ ',' :: (b₄ ++ more)))

end

/-! ## reading what is spelled -/

section

variable {fuel depth : Nat} {v : Json} {vs : List Json} {ms : List (String × Json)}
variable {b cs rest : List Char}

/-- A value may have blanks in front. -/
theorem value?_skip (hb : Blank b) (fuel depth : Nat) (cs : List Char) :
    value? fuel depth (b ++ cs) = value? fuel depth cs := by
  cases fuel with
  | zero => rfl
  | succ fuel => rw [value?, value?, skipSpace_append hb]

/-- Elements may have blanks in front. -/
theorem items?_skip (hb : Blank b) (fuel depth : Nat) (cs : List Char) :
    items? fuel depth (b ++ cs) = items? fuel depth cs := by
  cases fuel with
  | zero => rfl
  | succ fuel => rw [items?, items?, value?_skip hb]

/-- Members may have blanks in front. -/
theorem members?_skip (hb : Blank b) (fuel depth : Nat) (cs : List Char) :
    members? fuel depth (b ++ cs) = members? fuel depth cs := by
  cases fuel with
  | zero => rfl
  | succ fuel => rw [members?, members?, skipSpace_append hb]

/-- A number opens with no blank and no bracket. -/
theorem not_space_of_number {c : Char} (h : c = '-' ∨ isDigit c = true) :
    isSpace c = false ∧ c ≠ ']' := by
  rcases h with rfl | h
  · decide
  · constructor
    · by_contra hspace
      simp only [isSpace, Bool.not_eq_false, Bool.or_eq_true, beq_iff_eq] at hspace
      rcases hspace with ((rfl | rfl) | rfl) | rfl <;> exact absurd h (by decide)
    · rintro rfl
      exact absurd h (by decide)

/-- A token opens with no blank, and not in a way that could close an array. -/
theorem Token.exists_cons (h : Token v cs) :
    ∃ c more, cs = c :: more ∧ isSpace c = false ∧ c ≠ ']' := by
  cases h with
  | null => exact ⟨_, _, rfl, by decide⟩
  | bool b => cases b <;> exact ⟨_, _, rfl, by decide⟩
  | number hl hv =>
    obtain ⟨c, more, rfl, hc⟩ := Literal.exists_cons_of_read? hl
    exact ⟨c, more, rfl, not_space_of_number hc⟩
  | string s => exact ⟨_, _, rfl, by decide⟩

/-- No text of a value opens with a blank, or in a way that could close an array. -/
theorem Spells.exists_cons (h : Spells depth v cs) :
    ∃ c more, cs = c :: more ∧ isSpace c = false ∧ c ≠ ']' := by
  cases h with
  | token h => exact h.exists_cons
  | emptyArray => exact ⟨_, _, rfl, by decide⟩
  | array => exact ⟨_, _, rfl, by decide⟩
  | emptyObject => exact ⟨_, _, rfl, by decide⟩
  | object => exact ⟨_, _, rfl, by decide⟩

/-- A token is read back, at whatever depth it stands. -/
theorem value?_of_token (h : Token v cs) (hrest : Ends rest) (fuel depth : Nat) :
    value? (fuel + 1) depth (cs ++ rest) = some (v, rest) := by
  cases h with
  | null => rfl
  | bool b => cases b <;> rfl
  | number hl hv =>
    obtain ⟨c, more, rfl, hc⟩ := Literal.exists_cons_of_read? hl
    rw [List.cons_append, value?_of_number (skipSpace_cons (not_space_of_number hc).1 _) hc,
      ← List.cons_append, Literal.read?_append hl hrest, Option.bind_some, hv]
    rfl
  | string s =>
    rw [quote, List.cons_append, List.append_assoc, List.singleton_append, value?,
      skipSpace_cons (by decide)]
    simp only [quoted?_quote, Option.map_some]

end

/-! ## reading containers, step by step -/

section Step

variable {fuel depth : Nat} {v : Json} {vs : List Json} {name : String}
variable {ms : List (String × Json)} {b b' cs rest : List Char}

/-- Elements open as the first one does. -/
theorem SpellsItems.exists_cons (h : SpellsItems depth vs cs) :
    ∃ c more, cs = c :: more ∧ isSpace c = false ∧ c ≠ ']' := by
  cases h with
  | one h hb =>
    obtain ⟨c, more, rfl, hc⟩ := h.exists_cons
    exact ⟨c, _, rfl, hc⟩
  | cons h hb hb' hmore =>
    obtain ⟨c, more, rfl, hc⟩ := h.exists_cons
    exact ⟨c, _, rfl, hc⟩

/-- Members open with the quote of the first name. -/
theorem SpellsMembers.exists_cons (h : SpellsMembers depth ms cs) : ∃ more, cs = '"' :: more := by
  cases h <;> exact ⟨_, rfl⟩

/-- An array with nothing but blanks in it is empty. -/
theorem value?_emptyArray (hb : Blank b) :
    value? (fuel + 1) (depth + 1) ('[' :: (b ++ ']' :: rest)) = some (.array [], rest) := by
  rw [value?, skipSpace_cons (by decide)]
  simp only [skipSpace_append hb, skipSpace_cons (c := ']') (by decide)]
  rfl

/-- An object with nothing but blanks in it is empty. -/
theorem value?_emptyObject (hb : Blank b) :
    value? (fuel + 1) (depth + 1) ('\x7b' :: (b ++ '\x7d' :: rest)) = some (.object [], rest) := by
  rw [value?, skipSpace_cons (by decide)]
  simp only [skipSpace_append hb, skipSpace_cons (c := '\x7d') (by decide)]
  rfl

/-- An array is read as its elements are, one level further down. -/
theorem value?_array (hb : Blank b) {c : Char} (hc : isSpace c = false ∧ c ≠ ']')
    (h : items? fuel depth (c :: cs) = some (vs, rest)) :
    value? (fuel + 1) (depth + 1) ('[' :: (b ++ c :: cs)) = some (.array vs, rest) := by
  rw [value?, skipSpace_cons (by decide)]
  simp only [skipSpace_append hb, skipSpace_cons hc.1, Nat.add_sub_cancel]
  rw [if_neg (Nat.succ_ne_zero depth)]
  split
  · next heq =>
    cases heq
    exact absurd rfl hc.2
  · rw [h]
    rfl

/-- An object is read as its members are, one level further down; of two members of one name
the later one counts. -/
theorem value?_object (hb : Blank b)
    (h : members? fuel depth ('"' :: cs) = some (ms, rest)) :
    value? (fuel + 1) (depth + 1) ('\x7b' :: (b ++ '"' :: cs)) =
      some (.object (Assoc.ofList ms), rest) := by
  rw [value?, skipSpace_cons (by decide)]
  simp only [skipSpace_append hb, skipSpace_cons (c := '"') (by decide), Nat.add_sub_cancel]
  rw [if_neg (Nat.succ_ne_zero depth)]
  split
  · next heq => cases heq
  · rw [h]
    rfl

/-- The last element is followed by the closing bracket. -/
theorem items?_one (h : value? fuel depth cs = some (v, b ++ ']' :: rest)) (hb : Blank b) :
    items? (fuel + 1) depth cs = some ([v], rest) := by
  rw [items?, h]
  simp only [Option.bind_eq_bind, Option.bind_some, skipSpace_append hb,
    skipSpace_cons (c := ']') (by decide)]

/-- Behind a comma there are more elements. -/
theorem items?_cons (h : value? fuel depth cs = some (v, b ++ ',' :: rest)) (hb : Blank b) :
    items? (fuel + 1) depth cs = (items? fuel depth rest).map fun r => (v :: r.1, r.2) := by
  rw [items?, h]
  simp only [Option.bind_eq_bind, Option.bind_some, skipSpace_append hb,
    skipSpace_cons (c := ',') (by decide)]

/-- The last member is followed by the closing brace. -/
theorem members?_one (hb : Blank b)
    (h : value? fuel depth cs = some (v, b' ++ '\x7d' :: rest)) (hb' : Blank b') :
    members? (fuel + 1) depth (quote name ++ (b ++ ':' :: cs)) = some ([(name, v)], rest) := by
  rw [members?, quote, List.cons_append, List.append_assoc, List.singleton_append,
    skipSpace_cons (by decide)]
  simp only [Option.bind_eq_bind, Option.bind_some, quoted?_quote, skipSpace_append hb,
    skipSpace_cons (c := ':') (by decide), h, skipSpace_append hb',
    skipSpace_cons (c := '\x7d') (by decide)]

/-- Behind a comma there are more members. -/
theorem members?_cons (hb : Blank b)
    (h : value? fuel depth cs = some (v, b' ++ ',' :: rest)) (hb' : Blank b') :
    members? (fuel + 1) depth (quote name ++ (b ++ ':' :: cs)) =
      (members? fuel depth rest).map fun r => ((name, v) :: r.1, r.2) := by
  rw [members?, quote, List.cons_append, List.append_assoc, List.singleton_append,
    skipSpace_cons (by decide)]
  simp only [Option.bind_eq_bind, Option.bind_some, quoted?_quote, skipSpace_append hb,
    skipSpace_cons (c := ':') (by decide), h, skipSpace_append hb',
    skipSpace_cons (c := ',') (by decide)]

end Step

/-- What closes or separates elements does not carry on a number. -/
theorem Ends.of_close {c : Char} (h : c ∈ [',', ']', '\x7d']) (cs : List Char) : Ends (c :: cs) := by
  simp only [List.mem_cons, List.not_mem_nil, or_false] at h
  rcases h with rfl | rfl | rfl <;> exact .cons (by decide)

mutual

/-- A value is read from every text that spells it, whatever follows. -/
theorem value?_of_spells : ∀ {depth : Nat} {v : Json} {cs : List Char}, Spells depth v cs →
    ∀ (fuel : Nat) (rest : List Char), 2 * cs.length ≤ fuel → Ends rest →
      value? fuel depth (cs ++ rest) = some (v, rest)
  | depth, v, cs, .token h, fuel, rest, hfuel, hrest => by
    obtain ⟨c, more, rfl, -⟩ := h.exists_cons
    obtain ⟨fuel, rfl⟩ : ∃ more, fuel = more + 1 := ⟨fuel - 1, by simp at hfuel; omega⟩
    exact value?_of_token h hrest fuel depth
  | _, _, _, .emptyArray hb, fuel, rest, hfuel, hrest => by
    obtain ⟨fuel, rfl⟩ : ∃ more, fuel = more + 1 := ⟨fuel - 1, by simp at hfuel; omega⟩
    rw [List.cons_append, List.append_assoc]
    exact value?_emptyArray hb
  | _, _, _, .array hb h, fuel, rest, hfuel, hrest => by
    obtain ⟨fuel, rfl⟩ : ∃ more, fuel = more + 1 := ⟨fuel - 1, by simp at hfuel; omega⟩
    have hitems := items?_of_spells h fuel rest (by simp at hfuel; omega)
    obtain ⟨c, more, rfl, hc⟩ := h.exists_cons
    rw [List.cons_append, List.append_assoc, List.append_assoc]
    exact value?_array hb hc hitems
  | _, _, _, .emptyObject hb, fuel, rest, hfuel, hrest => by
    obtain ⟨fuel, rfl⟩ : ∃ more, fuel = more + 1 := ⟨fuel - 1, by simp at hfuel; omega⟩
    rw [List.cons_append, List.append_assoc]
    exact value?_emptyObject hb
  | _, _, _, .object hb h, fuel, rest, hfuel, hrest => by
    obtain ⟨fuel, rfl⟩ : ∃ more, fuel = more + 1 := ⟨fuel - 1, by simp at hfuel; omega⟩
    have hmembers := members?_of_spells h fuel rest (by simp at hfuel; omega)
    obtain ⟨more, rfl⟩ := h.exists_cons
    rw [List.cons_append, List.append_assoc, List.append_assoc]
    exact value?_object hb hmembers

/-- Elements are read from every text that spells them, up to the closing bracket. -/
theorem items?_of_spells : ∀ {depth : Nat} {vs : List Json} {cs : List Char},
    SpellsItems depth vs cs → ∀ (fuel : Nat) (rest : List Char), 2 * cs.length < fuel →
      items? fuel depth (cs ++ ']' :: rest) = some (vs, rest)
  | _, _, _, .one h hb, fuel, rest, hfuel => by
    obtain ⟨fuel, rfl⟩ : ∃ more, fuel = more + 1 := ⟨fuel - 1, by omega⟩
    rw [List.append_assoc]
    exact items?_one (value?_of_spells h _ _ (by simp at hfuel; omega)
      (.blank_append hb (.of_close (by decide) rest))) hb
  | _, _, _, .cons h hb hb' hmore, fuel, rest, hfuel => by
    obtain ⟨fuel, rfl⟩ : ∃ more, fuel = more + 1 := ⟨fuel - 1, by omega⟩
    have hitems := items?_of_spells hmore fuel rest (by simp at hfuel; omega)
    rw [List.append_assoc, List.append_assoc, List.cons_append, items?_cons
      (value?_of_spells h _ _ (by simp at hfuel; omega)
        (.blank_append hb (.of_close (by decide) _))) hb,
      List.append_assoc, items?_skip hb', hitems]
    rfl

/-- Members are read from every text that spells them, up to the closing brace. -/
theorem members?_of_spells : ∀ {depth : Nat} {ms : List (String × Json)} {cs : List Char},
    SpellsMembers depth ms cs → ∀ (fuel : Nat) (rest : List Char), 2 * cs.length < fuel →
      members? fuel depth (cs ++ '\x7d' :: rest) = some (ms, rest)
  | _, _, _, .one hb₁ hb₂ h hb₃, fuel, rest, hfuel => by
    obtain ⟨fuel, rfl⟩ : ∃ more, fuel = more + 1 := ⟨fuel - 1, by omega⟩
    have hvalue := value?_of_spells h fuel _ (by simp at hfuel; omega)
      (.blank_append hb₃ (.of_close (c := '\x7d') (by decide) rest))
    rw [List.append_assoc, List.append_assoc, List.cons_append, List.append_assoc,
      List.append_assoc]
    exact members?_one hb₁ ((value?_skip hb₂ _ _ _).trans hvalue) hb₃
  | _, _, _, .cons hb₁ hb₂ h hb₃ hb₄ hmore, fuel, rest, hfuel => by
    obtain ⟨fuel, rfl⟩ : ∃ more, fuel = more + 1 := ⟨fuel - 1, by omega⟩
    have hmembers := members?_of_spells hmore fuel rest (by simp at hfuel; omega)
    rw [List.append_assoc, List.append_assoc, List.cons_append, List.append_assoc,
      List.append_assoc, List.append_assoc, List.cons_append, members?_cons hb₁
        ((value?_skip hb₂ _ _ _).trans (value?_of_spells h _ _ (by simp at hfuel; omega)
          (.blank_append hb₃ (.of_close (by decide) _)))) hb₃,
      List.append_assoc, members?_skip hb₄, hmembers]
    rfl

end

/-- A text that spells a value is a text of that value, with blanks around it or none. -/
theorem read?_of_spells {v : Json} {b cs b' : List Char} (h : Spells depthLimit v cs)
    (hb : Blank b) (hb' : Blank b') : read? (String.ofList (b ++ cs ++ b')) = some v := by
  have hends : Ends b' := by
    have := Ends.blank_append hb' .nil
    rwa [List.append_nil] at this
  have hvalue : value? (2 * (b ++ cs ++ b').length + 2) depthLimit (b ++ cs ++ b') =
      some (v, b') := by
    rw [List.append_assoc, value?_skip hb]
    exact value?_of_spells h _ _ (by simp; omega) hends
  have hskip : skipSpace b' = [] := by
    have := skipSpace_append hb' []
    rwa [List.append_nil] at this
  rw [read?, String.toList_ofList, ofChars?, hvalue]
  exact if_pos hskip

end HttpChain.Json
