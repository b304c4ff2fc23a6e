import HttpChain.Proofs.Http.Headers

/-!
# HttpChain.Proofs.Http.HeaderLine

Header lines.  A line sets a header if more than blanks stand ahead of its first
colon (`line?_eq_some_iff`).  Lines are written one after the other, so that a header
is the one that the last line sets which sets it at all (`lastWrite?_lines_iff`).
-/

namespace HttpChain

/-- A text is split at the first separator. -/
theorem Text.splitOnce_append {sep : Char} {ahead : List Char} (h : sep ∉ ahead)
    (behind : List Char) : Text.splitOnce sep (ahead ++ sep :: behind) = some (ahead, behind) := by
  induction ahead with
  | nil => simp [Text.splitOnce]
  | cons c ahead ih =>
    rw [List.mem_cons, not_or] at h
    rw [List.cons_append, Text.splitOnce, if_neg (Ne.symm h.1), ih h.2, Option.map_some]

/-- A text is split at the first place where the separator stands. -/
theorem Text.splitOnce_eq_some_iff {sep : Char} {cs ahead behind : List Char} :
    Text.splitOnce sep cs = some (ahead, behind) ↔ cs = ahead ++ sep :: behind ∧ sep ∉ ahead := by
  refine ⟨fun h => ?_, fun ⟨hcs, hsep⟩ => hcs ▸ Text.splitOnce_append hsep behind⟩
  induction cs generalizing ahead with
  | nil => cases h
  | cons c cs ih =>
    rw [Text.splitOnce] at h
    split at h
    · next heq =>
      cases h
      simp [heq]
    · next hne =>
      obtain ⟨⟨front, rest⟩, hsplit, heq⟩ := Option.map_eq_some_iff.1 h
      cases heq
      obtain ⟨rfl, hfront⟩ := ih hsplit
      exact ⟨rfl, by simp [hfront, Ne.symm hne]⟩

namespace HeaderList

open Text (sameName trim)

/-! ## one line -/

/-- A line sets a header to a value: the name stands ahead of its first colon and the
value behind it, and the name is more than blanks. -/
inductive Sets (line : String) : String → String → Prop where
  | intro {ahead behind : List Char} : line.toList = ahead ++ ':' :: behind → ':' ∉ ahead →
      trim ahead ≠ [] → Sets line (String.ofList (trim ahead)) (String.ofList (trim behind))

/-- A line is split at its first colon, and sets nothing if only blanks stand before it. -/
theorem line?_of_append {line : String} {ahead behind : List Char}
    (h : line.toList = ahead ++ ':' :: behind) (hcolon : ':' ∉ ahead) :
    line? line = if trim ahead = [] then none
      else some (String.ofList (trim ahead), String.ofList (trim behind)) := by
  rw [line?, h, Text.splitOnce_append hcolon]
  rfl

/-- A line sets a header exactly as `Sets` says. -/
theorem line?_eq_some_iff {line name value : String} :
    line? line = some (name, value) ↔ Sets line name value := by
  constructor
  · intro h
    obtain ⟨⟨ahead, behind⟩, hsplit, hline⟩ := Option.bind_eq_some_iff.1 h
    obtain ⟨hchars, hcolon⟩ := Text.splitOnce_eq_some_iff.1 hsplit
    dsimp only at hline
    split at hline
    · cases hline
    · next hblank =>
      cases hline
      exact .intro hchars hcolon hblank
  · rintro ⟨hchars, hcolon, hblank⟩
    rw [line?_of_append hchars hcolon, if_neg hblank]

/-! ## lines one after the other -/

/-- Of the lines that set a header, under whatever spelling of its name, the last one
sets it to a value. -/
def LastSets (lines : List String) (name value : String) : Prop :=
  ∃ before line after spelling, lines = before ++ line :: after ∧
    Sets line spelling value ∧ sameName spelling name = true ∧
    ∀ later ∈ after, ∀ other text, Sets later other text → sameName other name = false

/-- Of several lines the last one with the name counts, in whatever case the name is
written. -/
theorem lastWrite?_lines_iff {lines : List String} {name value : String} :
    lastWrite? (sameName · name) (lines.filterMap line?) = some value ↔
      LastSets lines name value := by
  have hafter : ∀ after : List String,
      (∀ w ∈ after.filterMap line?, sameName w.1 name = false) ↔
        ∀ later ∈ after, ∀ other text, Sets later other text → sameName other name = false := by
    intro after
    simp only [List.mem_filterMap, Prod.forall, ← line?_eq_some_iff]
    exact ⟨fun h later hmem other text hline => h other text ⟨later, hmem, hline⟩,
      fun h other text ⟨later, hmem, hline⟩ => h later hmem other text hline⟩
  rw [lastWrite?_eq_some_iff]
  constructor
  · rintro ⟨ahead, spelling, behind, hwrites, hsame, hlater⟩
    obtain ⟨before, rest, rfl, -, hrest⟩ := List.filterMap_eq_append_iff.1 hwrites
    obtain ⟨skipped, line, after, rfl, hskipped, hline, rfl⟩ := List.filterMap_eq_cons_iff.1 hrest
    exact ⟨before ++ skipped, line, after, spelling, by simp, line?_eq_some_iff.1 hline, hsame,
      (hafter after).1 hlater⟩
  · rintro ⟨before, line, after, spelling, rfl, hsets, hsame, hlater⟩
    refine ⟨before.filterMap line?, spelling, after.filterMap line?, ?_, hsame,
      (hafter after).2 hlater⟩
    rw [List.filterMap_append, List.filterMap_cons_some (line?_eq_some_iff.2 hsets)]

theorem lastWrite?_lines_eq_none_iff {lines : List String} {name : String} :
    lastWrite? (sameName · name) (lines.filterMap line?) = none ↔
      ∀ value, ¬ LastSets lines name value := by
  simp only [Option.eq_none_iff_forall_ne_some, ne_eq, lastWrite?_lines_iff]

end HeaderList

end HttpChain
