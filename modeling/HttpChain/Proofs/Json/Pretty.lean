import HttpChain.Console.Response
import HttpChain.Proofs.Json.RoundTrip

/-!
# HttpChain.Proofs.Json.Pretty

Values over several lines.  Line breaks and indentation are blanks of the grammar, so a value
over several lines is spelled by the grammar as it is on one line (`spells_toLines`), and
is read back (`read?_pretty`).  A body that is JSON is therefore shown as JSON of the same
value, which is shown in the same way again (`prettyBody_exact`).
-/

namespace HttpChain

namespace Json

/-! ## lines -/

/-- The end of a line and its indentation are blanks. -/
theorem blank_newline (level : Nat) : Blank (newline level) := by
  intro c hc
  rcases List.mem_cons.1 hc with rfl | hc
  · rfl
  · obtain rfl := List.eq_of_mem_replicate hc
    rfl

theorem itemsToLines_cons (level : Nat) (v w : Json) (vs : List Json) :
    itemsToLines level (v :: w :: vs) =
      newline level ++ (toLines level v ++ ',' :: itemsToLines level (w :: vs)) := by
  rw [itemsToLines, List.append_assoc]
  exact nofun

theorem membersToLines_cons (level : Nat) (name : String) (v : Json) (m : String × Json)
    (ms : List (String × Json)) :
    membersToLines level ((name, v) :: m :: ms) =
      newline level ++ (quote name ++ ':' :: ' ' ::
        (toLines level v ++ ',' :: membersToLines level (m :: ms))) := by
  rw [membersToLines, List.append_assoc]
  exact nofun

section Lines

variable {depth level : Nat} {v : Json} {vs : List Json} {ms : List (String × Json)}
variable {cs more b : List Char}

/-- Elements may follow each other on lines of their own. -/
theorem SpellsItems.line_cons (h : Spells depth v cs) (hmore : SpellsItems depth vs more)
    (level : Nat) : SpellsItems depth (v :: vs) (cs ++ ',' :: (newline level ++ more)) := by
  have hcons := SpellsItems.cons h .nil (blank_newline level) hmore
  rwa [List.append_nil] at hcons

/-- One member may stand with a blank behind its colon. -/
theorem SpellsMembers.line_one (name : String) (h : Spells depth v cs) (hb : Blank b) :
    SpellsMembers depth [(name, v)] (quote name ++ ':' :: ' ' :: (cs ++ b)) := by
  have hone : SpellsMembers depth [(name, v)] (quote name ++ [] ++ ':' :: ([' '] ++ cs ++ b)) :=
    .one .nil (by simp [Blank, isSpace]) h hb
  rwa [List.append_nil] at hone

/-- Members may follow each other on lines of their own. -/
theorem SpellsMembers.line_cons (name : String) (h : Spells depth v cs)
    (hmore : SpellsMembers depth ms more) (level : Nat) :
    SpellsMembers depth ((name, v) :: ms)
      (quote name ++ ':' :: ' ' :: (cs ++ ',' :: (newline level ++ more))) := by
  have hcons : SpellsMembers depth ((name, v) :: ms)
      (quote name ++ [] ++ ':' :: ([' '] ++ cs ++ [] ++ ',' :: (newline level ++ more))) :=
    .cons .nil (by simp [Blank, isSpace]) h .nil (blank_newline level) hmore
  rwa [List.append_nil, List.append_nil] at hcons

end Lines

mutual

/-- A value over several lines spells it, with its members in the order of their names. -/
theorem spells_toLines : ∀ (v : Json) {depth : Nat} (level : Nat), v.depth ≤ depth →
    (∀ x ∈ v.floats, ReadsBack x) → Spells depth v.normal (toLines level v)
  | .null, _, _, _, _ => .token .null
  | .bool b, _, _, _, _ => .token (.bool b)
  | .integer n, _, _, _, _ => .token (token_integer n)
  | .float x, _, _, _, hfloats => .token (token_of_readsBack (hfloats x List.mem_cons_self))
  | .string s, _, _, _, _ => .token (.string s)
  | .array [], depth, level, hdepth, _ => by
    obtain ⟨depth, rfl⟩ : ∃ d, depth = d + 1 := ⟨depth - 1, by simp [Json.depth] at hdepth; omega⟩
    exact .emptyArray .nil
  | .array (v :: vs), depth, level, hdepth, hfloats => by
    rw [Json.depth] at hdepth
    obtain ⟨depth, rfl⟩ : ∃ d, depth = d + 1 := ⟨depth - 1, by omega⟩
    obtain ⟨cs, hcs, hspells⟩ := spellsItems_toLines v vs (level + 1) (blank_newline level)
      (Nat.le_of_succ_le_succ hdepth) hfloats
    have hlines : toLines level (.array (v :: vs)) =
        '[' :: (newline (level + 1) ++ (cs ++ newline level) ++ [']']) := by
      rw [toLines, hcs]
      simp only [List.append_assoc]
    rw [hlines]
    exact .array (blank_newline _) hspells
  | .object [], depth, level, hdepth, _ => by
    obtain ⟨depth, rfl⟩ : ∃ d, depth = d + 1 := ⟨depth - 1, by simp [Json.depth] at hdepth; omega⟩
    exact .emptyObject .nil
  | .object (m :: ms), depth, level, hdepth, hfloats => by
    rw [Json.depth] at hdepth
    obtain ⟨depth, rfl⟩ : ∃ d, depth = d + 1 := ⟨depth - 1, by omega⟩
    obtain ⟨cs, hcs, hspells⟩ := spellsMembers_toLines m ms (level + 1) (blank_newline level)
      (Nat.le_of_succ_le_succ hdepth) hfloats
    have hlines : toLines level (.object (m :: ms)) =
        '\x7b' :: (newline (level + 1) ++ (cs ++ newline level) ++ ['\x7d']) := by
      rw [toLines, hcs]
      simp only [List.append_assoc]
    rw [hlines]
    exact .object (blank_newline _) hspells
termination_by v => sizeOf v

/-- The lines of elements spell them, each in its normal form. -/
theorem spellsItems_toLines : ∀ (v : Json) (vs : List Json) {depth : Nat} (level : Nat)
    {b : List Char}, Blank b → depthItems (v :: vs) ≤ depth →
    (∀ x ∈ floatsItems (v :: vs), ReadsBack x) →
      ∃ cs, itemsToLines level (v :: vs) = newline level ++ cs ∧
        SpellsItems depth (normalItems (v :: vs)) (cs ++ b)
  | v, [], depth, level, b, hb, hdepth, hfloats => by
    simp only [depthItems, Nat.max_zero, floatsItems, List.append_nil] at hdepth hfloats
    exact ⟨toLines level v, rfl, .one (spells_toLines v level hdepth hfloats) hb⟩
  | v, w :: vs, depth, level, b, hb, hdepth, hfloats => by
    rw [depthItems, Nat.max_le] at hdepth
    rw [floatsItems, List.forall_mem_append] at hfloats
    obtain ⟨more, hmore, hspells⟩ := spellsItems_toLines w vs level hb hdepth.2 hfloats.2
    refine ⟨_, itemsToLines_cons level v w vs, ?_⟩
    rw [hmore, List.append_assoc, List.cons_append, List.append_assoc]
    exact .line_cons (spells_toLines v level hdepth.1 hfloats.1) hspells level
termination_by v vs => sizeOf (v :: vs)

/-- The lines of members spell them, each value in its normal form. -/
theorem spellsMembers_toLines : ∀ (m : String × Json) (ms : List (String × Json)) {depth : Nat}
    (level : Nat) {b : List Char}, Blank b → depthMembers (m :: ms) ≤ depth →
    (∀ x ∈ floatsMembers (m :: ms), ReadsBack x) →
      ∃ cs, membersToLines level (m :: ms) = newline level ++ cs ∧
        SpellsMembers depth (normalMembers (m :: ms)) (cs ++ b)
  | (name, v), [], depth, level, b, hb, hdepth, hfloats => by
    simp only [depthMembers, Nat.max_zero, floatsMembers, List.append_nil] at hdepth hfloats
    refine ⟨_, List.append_assoc _ _ _, ?_⟩
    rw [List.append_assoc]
    exact .line_one name (spells_toLines v level hdepth hfloats) hb
  | (name, v), m :: ms, depth, level, b, hb, hdepth, hfloats => by
    rw [depthMembers, Nat.max_le] at hdepth
    rw [floatsMembers, List.forall_mem_append] at hfloats
    obtain ⟨more, hmore, hspells⟩ := spellsMembers_toLines m ms level hb hdepth.2 hfloats.2
    refine ⟨_, membersToLines_cons level name v m ms, ?_⟩
    rw [hmore, List.append_assoc, List.cons_append, List.cons_append, List.append_assoc,
      List.cons_append, List.append_assoc]
    exact .line_cons name (spells_toLines v level hdepth.1 hfloats.1) hspells level
termination_by m ms => sizeOf (m :: ms)

end

/-- A value that does not nest too deep, and whose floats are read back, is read back from
its text over several lines, with its members in the order of their names. -/
theorem read?_pretty {v : Json} (hdepth : v.depth ≤ depthLimit)
    (hfloats : ∀ x ∈ v.floats, ReadsBack x) : read? v.pretty = some v.normal := by
  have hread := read?_of_spells (spells_toLines v 0 hdepth hfloats) .nil .nil
  rwa [List.nil_append, List.append_nil] at hread

/-- A value that has been read is read back from its text over several lines, if its floats
are read back. -/
theorem read?_pretty_of_read? {text : String} {v : Json} (h : read? text = some v)
    (hfloats : ∀ x ∈ v.floats, ReadsBack x) : read? v.pretty = some v := by
  have hkept := kept_of_read? h
  rw [read?_pretty hkept.depth_le hfloats, hkept.normal_eq]

end Json

namespace Console

/-- A body that is JSON is shown in lines. -/
theorem prettyBody_of_read? {body : String} {v : Json} (h : Json.read? body = some v) :
    prettyBody body = v.pretty := by
  rw [prettyBody, h]

/-- Any other body is shown as it is. -/
theorem prettyBody_of_not_json {body : String} (h : Json.read? body = none) :
    prettyBody body = body := by
  rw [prettyBody, h]

/-- A body is shown as what it means.  A body that is JSON, and whose floats are read back
from the forms in which they are written, is shown as JSON of the same value, and any
other body as it is; either is shown in the same way when it is shown again. -/
theorem prettyBody_exact (body : String) :
    (∀ v, Json.read? body = some v → (∀ x ∈ v.floats, Json.ReadsBack x) →
      Json.Spells Json.depthLimit v (prettyBody body).toList ∧
      Json.read? (prettyBody body) = some v ∧
      prettyBody (prettyBody body) = prettyBody body) ∧
    (Json.read? body = none →
      prettyBody body = body ∧ prettyBody (prettyBody body) = prettyBody body) := by
  refine ⟨fun v hread hfloats => ?_, fun hread => ?_⟩
  · have hkept := Json.kept_of_read? hread
    have hspells := Json.spells_toLines v 0 hkept.depth_le hfloats
    have hback := Json.read?_pretty_of_read? hread hfloats
    rw [hkept.normal_eq] at hspells
    rw [prettyBody_of_read? hread, prettyBody_of_read? hback, Json.pretty, String.toList_ofList]
    exact ⟨hspells, hback, rfl⟩
  · rw [prettyBody_of_not_json hread]
    exact ⟨rfl, prettyBody_of_not_json hread⟩

/-- Of two members with one name the later is shown, and an empty array stays on its line. -/
example : prettyBody "\x7b\"b\":[],\"a\":1,\"a\":[-2]\x7d" =
    "\x7b\n  \"a\": [\n    -2\n  ],\n  \"b\": []\n\x7d" := by decide +kernel

/-- A float in an array, beside an empty one. -/
def nestedValue : Json :=
  .object [("a", .array [.float ⟨true, 0x4004000000000000, by decide⟩]), ("b", .array [])]

/-- Its text on one line is shown over several lines with the same meaning. -/
theorem prettyBody_exact_nested :
    Json.read? "\x7b\"a\":[-2.5],\"b\":[]\x7d" = some nestedValue ∧
    (∀ x ∈ nestedValue.floats, Json.ReadsBack x) ∧
    Json.read? (prettyBody "\x7b\"a\":[-2.5],\"b\":[]\x7d") = some nestedValue ∧
    prettyBody (prettyBody "\x7b\"a\":[-2.5],\"b\":[]\x7d") =
      prettyBody "\x7b\"a\":[-2.5],\"b\":[]\x7d" := by
  have hfloats : ∀ x ∈ nestedValue.floats, Json.ReadsBack x := by decide +kernel
  have htext : nestedValue.write = "\x7b\"a\":[-2.5],\"b\":[]\x7d" := by decide +kernel
  have hread : Json.read? "\x7b\"a\":[-2.5],\"b\":[]\x7d" = some nestedValue := by
    rw [← htext, Json.read?_write (by decide) hfloats]
    rfl
  obtain ⟨-, hback, hagain⟩ := (prettyBody_exact _).1 nestedValue hread hfloats
  exact ⟨hread, hfloats, hback, hagain⟩

end Console

end HttpChain
