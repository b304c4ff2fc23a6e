import HttpChain.Config.Document
import HttpChain.Proofs.Toml.Sections
import Mathlib.Data.List.Perm.Basic

/-!
# HttpChain.Proofs.Toml.Reordering

Documents that differ in the order of their entries.  The order in which a
table has its entries means nothing: what stands at a key, and what a whole
table is read as, does not depend on it.  A document that is read comes out
reordered (`reordered_arrange`).
-/

namespace HttpChain.Toml

/-- A value whose tables, on every level, may have their entries in another
order. -/
inductive Reordered : Toml → Toml → Prop
  | refl (v : Toml) : Reordered v v
  | array {vs ws : List Toml} (items : List.Forall₂ Reordered vs ws) :
    Reordered (.array vs) (.array ws)
  | table {es fs gs : List (String × Toml)} (keys : fs.map Prod.fst = es.map Prod.fst)
      (values : List.Forall₂ Reordered (es.map Prod.snd) (fs.map Prod.snd)) (order : gs.Perm fs) :
    Reordered (.table es) (.table gs)

/-- The same key with a reordered value. -/
def EntryReordered (e f : String × Toml) : Prop := f.1 = e.1 ∧ Reordered e.2 f.2

/-- Entries that are reordered keep their keys, and their values are reordered. -/
theorem forall₂_entryReordered {es fs : List (String × Toml)} :
    List.Forall₂ EntryReordered es fs ↔ fs.map Prod.fst = es.map Prod.fst ∧
      List.Forall₂ Reordered (es.map Prod.snd) (fs.map Prod.snd) := by
  induction es generalizing fs with
  | nil => cases fs <;> simp
  | cons e es ih =>
    cases fs with
    | nil => simp
    | cons f fs =>
      rw [List.forall₂_cons, ih, List.map_cons, List.map_cons, List.map_cons, List.map_cons,
        List.cons_eq_cons, List.forall₂_cons, EntryReordered]
      exact and_and_and_comm

namespace Reordered

variable {es gs : List (String × Toml)} {v w : Toml}

/-- What a table becomes: a table of the same keys with reordered values. -/
theorem table_cases (h : Reordered (.table es) w) :
    ∃ fs gs, w = .table gs ∧ List.Forall₂ EntryReordered es fs ∧ gs.Perm fs := by
  cases h with
  | refl => exact ⟨es, es, rfl, List.forall₂_same.2 fun e _ => ⟨rfl, .refl _⟩, .refl _⟩
  | table keys values order => exact ⟨_, _, rfl, forall₂_entryReordered.2 ⟨keys, values⟩, order⟩

/-- An array that is reordered is an array of as many items, each reordered. -/
theorem array_cases {vs : List Toml} (h : Reordered (.array vs) w) :
    ∃ ws, w = .array ws ∧ List.Forall₂ Reordered vs ws := by
  cases h with
  | refl => exact ⟨vs, rfl, List.forall₂_same.2 fun v _ => .refl v⟩
  | array items => exact ⟨_, rfl, items⟩

end Reordered

/-! ## what stands at a key -/

section

variable {es fs gs : List (String × Toml)} {key : String}

theorem valueAt?_eq_none_iff : valueAt? key es = none ↔ key ∉ es.map Prod.fst := by
  induction es with
  | nil => simp [valueAt?]
  | cons e es ih =>
    rw [valueAt?, List.map_cons, List.mem_cons, not_or]
    split_ifs with h
    · simp [h]
    · simp [ih, Ne.symm h]

theorem mem_of_valueAt? {v : Toml} (h : valueAt? key es = some v) : (key, v) ∈ es := by
  induction es with
  | nil => cases h
  | cons e es ih =>
    rw [valueAt?] at h
    split_ifs at h with hkey
    · cases h
      exact hkey ▸ List.mem_cons_self
    · exact List.mem_cons_of_mem _ (ih h)

/-- Where keys are distinct, an entry is found at its key. -/
theorem valueAt?_of_mem (hkeys : (es.map Prod.fst).Nodup) {v : Toml} (h : (key, v) ∈ es) :
    valueAt? key es = some v := by
  induction es with
  | nil => cases h
  | cons e es ih =>
    rw [List.map_cons, List.nodup_cons] at hkeys
    rw [valueAt?]
    rcases List.mem_cons.1 h with rfl | h
    · rw [if_pos rfl]
    · have hne : e.1 ≠ key := by
        rintro rfl
        exact hkeys.1 (List.mem_map.2 ⟨_, h, rfl⟩)
      rw [if_neg hne, ih hkeys.2 h]

/-- What stands at a key does not depend on the order of the entries. -/
theorem valueAt?_perm (hkeys : (fs.map Prod.fst).Nodup) (h : gs.Perm fs) :
    valueAt? key gs = valueAt? key fs := by
  cases hvalue : valueAt? key fs with
  | none =>
    rw [valueAt?_eq_none_iff] at hvalue ⊢
    rwa [(h.map Prod.fst).mem_iff]
  | some v =>
    have hmem : (key, v) ∈ gs := h.mem_iff.2 (mem_of_valueAt? hvalue)
    exact valueAt?_of_mem ((h.map Prod.fst).nodup_iff.2 hkeys) hmem

/-- Under each key stand values that are reorderings of each other, or none at all. -/
theorem valueAt?_forall₂ (h : List.Forall₂ EntryReordered es fs) :
    Option.Rel Reordered (valueAt? key es) (valueAt? key fs) := by
  induction h with
  | nil => exact .none
  | @cons e f es fs hentry _ ih =>
    rw [valueAt?, valueAt?, hentry.1]
    split
    · exact .some hentry.2
    · exact ih

/-- At each key of a reordered table stands the reordered value. -/
theorem Reordered.valueAt? (h : Reordered (.table es) (.table gs)) (hkeys : (es.map Prod.fst).Nodup)
    (key : String) : Option.Rel Reordered (valueAt? key es) (valueAt? key gs) := by
  obtain ⟨fs, gs', heq, hentries, horder⟩ := h.table_cases
  cases heq
  rw [valueAt?_perm (by rwa [(forall₂_entryReordered.1 hentries).1]) horder]
  exact valueAt?_forall₂ hentries

end

/-! ## documents in order -/

mutual

/-- In order, a value is the same up to the order of entries. -/
theorem reordered_arrange (v : Toml) : Reordered v (arrange v) := by
  match v with
  | .table es =>
    obtain ⟨fs, hentries, horder⟩ := exists_reordered_arrange es
    obtain ⟨hkeys, hvalues⟩ := forall₂_entryReordered.1 hentries
    exact .table hkeys hvalues horder
  | .array vs =>
    rw [arrange]
    split
    · exact .array (reordered_arrangeItems vs)
    · exact .refl _
  | .string _ | .integer _ | .float _ | .bool _ | .time _ => exact .refl _

/-- Arranging the entries of a table moves them and reorders their values. -/
theorem exists_reordered_arrange (es : List (String × Toml)) :
    ∃ fs, List.Forall₂ EntryReordered es fs ∧ (own es ++ arrangeChildren es).Perm fs := by
  match es with
  | [] => exact ⟨[], .nil, .refl _⟩
  | (k, v) :: es =>
    obtain ⟨fs, hentries, horder⟩ := exists_reordered_arrange es
    rw [arrangeChildren]
    split
    · next h =>
      have hown : own ((k, v) :: es) = own es := List.filter_cons_of_neg (by simp [h])
      rw [hown]
      exact ⟨(k, arrange v) :: fs, .cons ⟨rfl, reordered_arrange v⟩ hentries,
        List.perm_middle.trans (horder.cons _)⟩
    · next h =>
      have hown : own ((k, v) :: es) = (k, v) :: own es := List.filter_cons_of_pos (by simp [h])
      rw [hown]
      exact ⟨(k, v) :: fs, .cons ⟨rfl, .refl v⟩ hentries, horder.cons _⟩

/-- Arranging the items of an array reorders each of them. -/
theorem reordered_arrangeItems (vs : List Toml) : List.Forall₂ Reordered vs (arrangeItems vs) := by
  match vs with
  | [] => exact .nil
  | v :: vs => exact .cons (reordered_arrange v) (reordered_arrangeItems vs)

end

end HttpChain.Toml
