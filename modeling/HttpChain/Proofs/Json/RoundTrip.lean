import HttpChain.Proofs.Decimal.Layout
import HttpChain.Proofs.Json.Grammar

/-!
# HttpChain.Proofs.Json.RoundTrip

What is written is read back.  A value on one line is spelled by the grammar
(`spells_toChars`), so it is read back with its members in the order of their names, as
long as it does not nest too deep and its floats are read back from the forms in which
they are written (`read?_write`).  A value that has been read does not nest too deep, and
its members are in that order (`kept_of_read?`).
-/

namespace HttpChain.Json

open Text

/-! ## what a value consists of -/

/-- A value that is no container. -/
def isAtom : Json → Bool
  | array _ => false
  | object _ => false
  | _ => true

mutual

/-- How deep the containers of a value nest. -/
def depth : Json → Nat
  | array items => depthItems items + 1
  | object members => depthMembers members + 1
  | _ => 0

/-- How deep elements nest. -/
def depthItems : List Json → Nat
  | [] => 0
  | v :: vs => max (depth v) (depthItems vs)

/-- How deep members nest. -/
def depthMembers : List (String × Json) → Nat
  | [] => 0
  | (_, v) :: ms => max (depth v) (depthMembers ms)

end

mutual

/-- The floats in a value. -/
def floats : Json → List Binary64
  | float x => [x]
  | array items => floatsItems items
  | object members => floatsMembers members
  | _ => []

/-- The floats in elements. -/
def floatsItems : List Json → List Binary64
  | [] => []
  | v :: vs => floats v ++ floatsItems vs

/-- The floats in members. -/
def floatsMembers : List (String × Json) → List Binary64
  | [] => []
  | (_, v) :: ms => floats v ++ floatsMembers ms

end

mutual

/-- A value as a document keeps it: members in the order of their names, and of two
with one name the later. -/
def normal : Json → Json
  | array items => .array (normalItems items)
  | object members => .object (Assoc.ofList (normalMembers members))
  | v => v

/-- Elements as a document keeps them. -/
def normalItems : List Json → List Json
  | [] => []
  | v :: vs => normal v :: normalItems vs

/-- Members as a document keeps them, but in the order in which they are. -/
def normalMembers : List (String × Json) → List (String × Json)
  | [] => []
  | (name, v) :: ms => (name, normal v) :: normalMembers ms

end

/-! ## floats -/

/-- A float is read back from the form in which it is written. -/
def ReadsBack (x : Binary64) : Prop := read? (write (.float x)) = some (.float x)

/-- The float that a value is. -/
def float? : Json → Option Binary64
  | float x => some x
  | _ => none

/-- A float is a float and nothing else. -/
theorem float?_eq_some_iff {v : Json} {x : Binary64} : v.float? = some x ↔ v = .float x := by
  cases v <;> simp [float?]

instance (x : Binary64) : Decidable (ReadsBack x) :=
  decidable_of_iff ((read? (write (.float x))).bind float? = some x) (by
    simp [ReadsBack, Option.bind_eq_some_iff, float?_eq_some_iff])

/-- No blank stands in the text of a float. -/
theorem not_space_of_isFloatChar {c : Char} (h : Decimal.isFloatChar c = true) :
    isSpace c = false := by
  by_contra hspace
  simp only [isSpace, Bool.not_eq_false, Bool.or_eq_true, beq_iff_eq] at hspace
  rcases hspace with ((rfl | rfl) | rfl) | rfl <;> exact absurd h (by decide)

/-- The form of a float that is read back is one token. -/
theorem token_of_readsBack {x : Binary64} (h : ReadsBack x) :
    Token (.float x) (Decimal.documentForm x) := by
  have hwrite : (write (.float x)).toList = Decimal.documentForm x := by
    simp only [write, toChars, leaf, String.toList_ofList]
  rw [ReadsBack, read?, hwrite, ofChars?] at h
  split at h
  · next v rest hvalue =>
    split at h
    · next hrest =>
      obtain rfl : v = .float x := Option.some.inj h
      obtain ⟨c, more, hcs, hc⟩ := Decimal.documentForm_eq_cons x
      have hskip : skipSpace (Decimal.documentForm x) = c :: more := by
        rw [hcs, skipSpace_cons (not_space_of_number hc).1]
      rw [value?_of_number hskip hc, ← hcs] at hvalue
      obtain ⟨⟨l, rest'⟩, hl, hvalue⟩ := Option.bind_eq_some_iff.1 hvalue
      obtain ⟨v, hv, heq⟩ := Option.map_eq_some_iff.1 hvalue
      obtain ⟨rfl, rfl⟩ := Prod.mk.inj heq
      -- nothing follows the literal, since its form holds no blanks
      have hnil : rest' = [] := by
        cases rest' with
        | nil => rfl
        | cons d ds =>
          have hmem : d ∈ Decimal.documentForm x :=
            (Literal.read?_suffix hl).subset List.mem_cons_self
          have hd := not_space_of_isFloatChar (Decimal.isFloatChar_of_mem_documentForm hmem)
          rw [skipSpace_cons hd] at hrest
          cases hrest
      rw [hnil] at hl
      exact .number hl hv
    · cases h
  · cases h

/-- An integer in decimal digits is a token. -/
theorem token_integer (n : WordInt) : Token (.integer n) (signedDecimal n.val) := by
  obtain ⟨l, hl, hv⟩ : ∃ l, Literal.read? (signedDecimal n.val ++ []) = some (l, []) ∧
      l.value? = some (.integer n) := Literal.read?_integer_iff.2 ⟨rfl, .nil⟩
  rw [List.append_nil] at hl
  exact .number hl hv

/-! ## what is written -/

section Compact

variable {depth : Nat} {v : Json} {vs : List Json} {name : String} {ms : List (String × Json)}
variable {cs more : List Char}

/-- One element may stand without blanks. -/
theorem SpellsItems.compact_one (h : Spells depth v cs) : SpellsItems depth [v] cs := by
  have hone := SpellsItems.one h .nil
  rwa [List.append_nil] at hone

/-- Elements may follow each other without blanks. -/
theorem SpellsItems.compact_cons (h : Spells depth v cs) (hmore : SpellsItems depth vs more) :
    SpellsItems depth (v :: vs) (cs ++ ',' :: more) := by
  have hcons := SpellsItems.cons h .nil .nil hmore
  rwa [List.append_nil] at hcons

/-- One member may stand without blanks. -/
theorem SpellsMembers.compact_one (name : String) (h : Spells depth v cs) :
    SpellsMembers depth [(name, v)] (quote name ++ ':' :: cs) := by
  have hone : SpellsMembers depth [(name, v)] (quote name ++ [] ++ ':' :: ([] ++ cs ++ [])) :=
    .one .nil .nil h .nil
  rwa [List.append_nil, List.append_nil] at hone

/-- Members may follow each other without blanks. -/
theorem SpellsMembers.compact_cons (name : String) (h : Spells depth v cs)
    (hmore : SpellsMembers depth ms more) :
    SpellsMembers depth ((name, v) :: ms) (quote name ++ ':' :: (cs ++ ',' :: more)) := by
  have hcons : SpellsMembers depth ((name, v) :: ms)
      (quote name ++ [] ++ ':' :: ([] ++ cs ++ [] ++ ',' :: ([] ++ more))) :=
    .cons .nil .nil h .nil .nil hmore
  rwa [List.append_nil, List.nil_append, List.append_nil] at hcons

end Compact

mutual

/-- A value on one line spells it, with its members in the order of their names. -/
theorem spells_toChars : ∀ (v : Json) {depth : Nat}, v.depth ≤ depth →
    (∀ x ∈ v.floats, ReadsBack x) → Spells depth v.normal v.toChars
  | .null, _, _, _ => .token .null
  | .bool b, _, _, _ => .token (.bool b)
  | .integer n, _, _, _ => .token (token_integer n)
  | .float x, _, _, hfloats => .token (token_of_readsBack (hfloats x List.mem_cons_self))
  | .string s, _, _, _ => .token (.string s)
  | .array [], depth, hdepth, _ => by
    obtain ⟨depth, rfl⟩ : ∃ d, depth = d + 1 := ⟨depth - 1, by simp [Json.depth] at hdepth; omega⟩
    exact .emptyArray .nil
  | .array (v :: vs), depth, hdepth, hfloats => by
    rw [Json.depth] at hdepth
    obtain ⟨depth, rfl⟩ : ∃ d, depth = d + 1 := ⟨depth - 1, by omega⟩
    exact .array .nil (spellsItems_toChars v vs (Nat.le_of_succ_le_succ hdepth) hfloats)
  | .object [], depth, hdepth, _ => by
    obtain ⟨depth, rfl⟩ : ∃ d, depth = d + 1 := ⟨depth - 1, by simp [Json.depth] at hdepth; omega⟩
    exact .emptyObject .nil
  | .object (m :: ms), depth, hdepth, hfloats => by
    rw [Json.depth] at hdepth
    obtain ⟨depth, rfl⟩ : ∃ d, depth = d + 1 := ⟨depth - 1, by omega⟩
    exact .object .nil (spellsMembers_toChars m ms (Nat.le_of_succ_le_succ hdepth) hfloats)

/-- What is written of elements spells them, each in its normal form. -/
theorem spellsItems_toChars : ∀ (v : Json) (vs : List Json) {depth : Nat},
    depthItems (v :: vs) ≤ depth → (∀ x ∈ floatsItems (v :: vs), ReadsBack x) →
      SpellsItems depth (normalItems (v :: vs)) (itemsToChars (v :: vs))
  | v, [], depth, hdepth, hfloats => by
    simp only [depthItems, Nat.max_zero, floatsItems, List.append_nil] at hdepth hfloats
    exact .compact_one (spells_toChars v hdepth hfloats)
  | v, w :: vs, depth, hdepth, hfloats => by
    rw [depthItems, Nat.max_le] at hdepth
    rw [floatsItems, List.forall_mem_append] at hfloats
    exact .compact_cons (spells_toChars v hdepth.1 hfloats.1)
      (spellsItems_toChars w vs hdepth.2 hfloats.2)

/-- What is written of members spells them, each value in its normal form. -/
theorem spellsMembers_toChars : ∀ (m : String × Json) (ms : List (String × Json)) {depth : Nat},
    depthMembers (m :: ms) ≤ depth → (∀ x ∈ floatsMembers (m :: ms), ReadsBack x) →
      SpellsMembers depth (normalMembers (m :: ms)) (membersToChars (m :: ms))
  | (name, v), [], depth, hdepth, hfloats => by
    simp only [depthMembers, Nat.max_zero, floatsMembers, List.append_nil] at hdepth hfloats
    exact .compact_one name (spells_toChars v hdepth hfloats)
  | (name, v), m :: ms, depth, hdepth, hfloats => by
    rw [depthMembers, Nat.max_le] at hdepth
    rw [floatsMembers, List.forall_mem_append] at hfloats
    exact .compact_cons name (spells_toChars v hdepth.1 hfloats.1)
      (spellsMembers_toChars m ms hdepth.2 hfloats.2)

end

/-- A value that does not nest too deep, and whose floats are read back, is read back from
its text on one line, with its members in the order of their names. -/
theorem read?_write {v : Json} (hdepth : v.depth ≤ depthLimit)
    (hfloats : ∀ x ∈ v.floats, ReadsBack x) : read? v.write = some v.normal := by
  have hread := read?_of_spells (spells_toChars v hdepth hfloats) .nil .nil
  rwa [List.nil_append, List.append_nil] at hread

/-! ## what is read -/

/-- Values as a document keeps them, that nest at most so deep. -/
inductive Kept : Nat → Json → Prop where
  | atom {depth : Nat} {v : Json} (h : v.isAtom = true) : Kept depth v
  | array {depth : Nat} {vs : List Json} (h : ∀ v ∈ vs, Kept depth v) :
      Kept (depth + 1) (.array vs)
  | object {depth : Nat} {ms : List (String × Json)} (h : ∀ m ∈ ms, Kept depth m.2) :
      Kept (depth + 1) (.object (Assoc.ofList ms))

/-- What holds of all members holds of those that remain, one for each name. -/
theorem forall_mem_ofList {ms : List (String × Json)} {p : Json → Prop} (h : ∀ m ∈ ms, p m.2) :
    ∀ m ∈ Assoc.ofList ms, p m.2 := fun m hm =>
  h m ((Assoc.mem_insertAll hm).resolve_right List.not_mem_nil)

/-- A value without others in it is its own normal form. -/
theorem normal_of_isAtom {v : Json} (h : v.isAtom = true) : v.normal = v := by
  cases v <;> first | rfl | cases h

/-- A value without others in it takes up no level. -/
theorem depth_of_isAtom {v : Json} (h : v.isAtom = true) : v.depth = 0 := by
  cases v <;> first | rfl | cases h

/-- Elements in normal form stay as they are. -/
theorem normalItems_eq_self {vs : List Json} (h : ∀ v ∈ vs, v.normal = v) :
    normalItems vs = vs := by
  induction vs with
  | nil => rfl
  | cons v vs ih =>
    rw [List.forall_mem_cons] at h
    rw [normalItems, h.1, ih h.2]

theorem normalMembers_eq_self {ms : List (String × Json)} (h : ∀ m ∈ ms, m.2.normal = m.2) :
    normalMembers ms = ms := by
  induction ms with
  | nil => rfl
  | cons m ms ih =>
    rw [List.forall_mem_cons] at h
    rw [normalMembers, h.1, ih h.2]

/-- Elements are as deep as the deepest of them. -/
theorem depthItems_le {vs : List Json} {n : Nat} (h : ∀ v ∈ vs, v.depth ≤ n) :
    depthItems vs ≤ n := by
  induction vs with
  | nil => exact Nat.zero_le n
  | cons v vs ih =>
    rw [List.forall_mem_cons] at h
    exact Nat.max_le.2 ⟨h.1, ih h.2⟩

theorem depthMembers_le {ms : List (String × Json)} {n : Nat} (h : ∀ m ∈ ms, m.2.depth ≤ n) :
    depthMembers ms ≤ n := by
  induction ms with
  | nil => exact Nat.zero_le n
  | cons m ms ih =>
    rw [List.forall_mem_cons] at h
    exact Nat.max_le.2 ⟨h.1, ih h.2⟩

namespace Kept

/-- A value as a document keeps it is in normal form. -/
theorem normal_eq {depth : Nat} {v : Json} (h : Kept depth v) : v.normal = v := by
  induction h with
  | atom h => exact normal_of_isAtom h
  | array h ih => rw [normal, normalItems_eq_self ih]
  | object h ih =>
    rw [normal, normalMembers_eq_self (forall_mem_ofList (p := fun v => v.normal = v) ih),
      Assoc.ofList_of_perm (Assoc.ascending_ofList _) (List.Perm.refl _)]

/-- A value as a document keeps it nests no deeper than it is said to. -/
theorem depth_le {depth : Nat} {v : Json} (h : Kept depth v) : v.depth ≤ depth := by
  induction h with
  | atom h => exact depth_of_isAtom h ▸ Nat.zero_le _
  | array h ih => exact Nat.succ_le_succ (depthItems_le ih)
  | object h ih =>
    exact Nat.succ_le_succ (depthMembers_le (forall_mem_ofList (p := (·.depth ≤ _)) ih))

end Kept

theorem isAtom_of_map_float {x : Option Binary64} {v : Json} (h : x.map Json.float = some v) :
    v.isAtom = true := by
  obtain ⟨y, -, rfl⟩ := Option.map_eq_some_iff.1 h
  rfl

theorem isAtom_of_float? {l : Literal} {g : Gathered} {v : Json} (h : l.float? g = some v) :
    v.isAtom = true := by
  unfold Literal.float? at h
  split at h
  · exact isAtom_of_map_float h
  · split at h
    · split at h
      · cases h
      · cases h
        rfl
    · exact isAtom_of_map_float h

theorem isAtom_of_ofInt? {n : Int} {v : Json} (h : ofInt? n = some v) : v.isAtom = true := by
  unfold ofInt? at h
  split at h
  · cases h
    rfl
  · cases h

/-- Whatever a number is read as has no other values in it. -/
theorem isAtom_of_literal {l : Literal} {v : Json} (h : l.value? = some v) : v.isAtom = true := by
  rw [Literal.value?_eq] at h
  split at h
  · exact isAtom_of_float? h
  · dsimp only at h
    split at h
    · exact isAtom_of_float? h
    · split at h
      · split at h
        · exact isAtom_of_map_float h
        · exact isAtom_of_ofInt? h
      · exact isAtom_of_ofInt? h

/-- Whatever a word is read as has no other values in it. -/
theorem isAtom_of_keyword? {cs rest : List Char} {v : Json} (h : keyword? cs = some (v, rest)) :
    v.isAtom = true := by
  unfold keyword? at h
  split at h <;> cases h <;> rfl

mutual

/-- A value that is read is as a document keeps it, and nests no deeper than is allowed. -/
theorem kept_of_value? : ∀ (fuel : Nat) {depth : Nat} {cs rest : List Char} {v : Json},
    value? fuel depth cs = some (v, rest) → Kept depth v
  | 0, _, _, _, _, h => nomatch h
  | fuel + 1, depth, cs, rest, v, h => by
    rw [value?] at h
    split at h
    · obtain ⟨s, -, heq⟩ := Option.map_eq_some_iff.1 h
      cases heq
      exact .atom rfl
    · split at h
      · cases h
      · next hdepth =>
        obtain ⟨depth, rfl⟩ := Nat.exists_eq_succ_of_ne_zero hdepth
        split at h
        · cases h
          exact .array nofun
        · obtain ⟨⟨vs, more⟩, hitems, heq⟩ := Option.map_eq_some_iff.1 h
          cases heq
          exact .array (kept_of_items? fuel hitems)
    · split at h
      · cases h
      · next hdepth =>
        obtain ⟨depth, rfl⟩ := Nat.exists_eq_succ_of_ne_zero hdepth
        split at h
        · cases h
          have hnone : ∀ m ∈ ([] : List (String × Json)), Kept depth m.2 := nofun
          exact .object hnone
        · obtain ⟨⟨ms, more⟩, hmembers, heq⟩ := Option.map_eq_some_iff.1 h
          cases heq
          exact .object (kept_of_members? fuel hmembers)
    · split at h
      · obtain ⟨⟨l, more⟩, -, h⟩ := Option.bind_eq_some_iff.1 h
        obtain ⟨w, hw, heq⟩ := Option.bind_eq_some_iff.1 h
        cases heq
        exact .atom (isAtom_of_literal hw)
      · exact .atom (isAtom_of_keyword? h)
    · cases h

/-- Elements are kept by the reader, one level further down. -/
theorem kept_of_items? : ∀ (fuel : Nat) {depth : Nat} {cs rest : List Char} {vs : List Json},
    items? fuel depth cs = some (vs, rest) → ∀ v ∈ vs, Kept depth v
  | 0, _, _, _, _, h => nomatch h
  | fuel + 1, depth, cs, rest, vs, h => by
    rw [items?] at h
    obtain ⟨⟨v, more⟩, hv, h⟩ := Option.bind_eq_some_iff.1 h
    have hfirst : Kept depth v := kept_of_value? fuel hv
    dsimp only at h
    split at h
    · obtain ⟨⟨vs, more⟩, hitems, heq⟩ := Option.map_eq_some_iff.1 h
      cases heq
      exact List.forall_mem_cons.2 ⟨hfirst, kept_of_items? fuel hitems⟩
    · cases h
      exact List.forall_mem_singleton.2 hfirst
    · cases h

/-- The values of members are kept by the reader, one level further down. -/
theorem kept_of_members? : ∀ (fuel : Nat) {depth : Nat} {cs rest : List Char}
    {ms : List (String × Json)},
    members? fuel depth cs = some (ms, rest) → ∀ m ∈ ms, Kept depth m.2
  | 0, _, _, _, _, h => nomatch h
  | fuel + 1, depth, cs, rest, ms, h => by
    rw [members?] at h
    split at h
    · obtain ⟨⟨name, more⟩, -, h⟩ := Option.bind_eq_some_iff.1 h
      dsimp only at h
      split at h
      · obtain ⟨⟨v, more⟩, hv, h⟩ := Option.bind_eq_some_iff.1 h
        have hfirst : Kept depth v := kept_of_value? fuel hv
        dsimp only at h
        split at h
        · obtain ⟨⟨ms, more⟩, hmembers, heq⟩ := Option.map_eq_some_iff.1 h
          cases heq
          exact List.forall_mem_cons.2 ⟨hfirst, kept_of_members? fuel hmembers⟩
        · cases h
          exact List.forall_mem_singleton.2 hfirst
        · cases h
      · cases h
    · cases h

end

/-- A document that is read keeps its members in the order of their names, and nests no
deeper than is allowed. -/
theorem kept_of_read? {text : String} {v : Json} (h : read? text = some v) :
    Kept depthLimit v := by
  rw [read?, ofChars?] at h
  split at h
  · next w rest hvalue =>
    split at h
    · cases h
      exact kept_of_value? _ hvalue
    · cases h
  · cases h

end HttpChain.Json
