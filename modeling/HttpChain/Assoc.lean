/-!
# HttpChain.Assoc

Association lists whose keys ascend in code-point order, which is also the
order of their UTF-8 bytes.  Every map of this library is one: the members of
a JSON object, the tables of a config, the variables of a run.  A key that is
written again keeps its place and takes the new value, so the last write wins.

The main statements: `insert` keeps the keys ascending (`Ascending.insert`),
and a lookup after it sees the new value at its key and the old ones elsewhere
(`find?_insert`).
-/

namespace HttpChain

/-- A list of keys with their values. -/
abbrev Assoc (α : Type) := List (String × α)

namespace Assoc

variable {α β : Type}

/-- The value at a key. -/
def find? (key : String) : Assoc α → Option α
  | [] => none
  | (k, v) :: rest => if k = key then some v else find? key rest

/-- Write a value at a key, in its place in the order. -/
def insert (key : String) (value : α) : Assoc α → Assoc α
  | [] => [(key, value)]
  | (k, v) :: rest =>
    if key < k then (key, value) :: (k, v) :: rest
    else if key = k then (key, value) :: rest
    else (k, v) :: insert key value rest

/-- Write each entry in turn. -/
def insertAll (entries : List (String × α)) (into : Assoc α) : Assoc α :=
  entries.foldl (fun acc e => insert e.1 e.2 acc) into

/-- The ordered form of a list of entries, the last of each key. -/
def ofList (entries : List (String × α)) : Assoc α := insertAll entries []

/-- The keys, in order. -/
def keys (entries : Assoc α) : List String := entries.map Prod.fst

/-- Each key is below the ones behind it. -/
def Ascending (entries : Assoc α) : Prop := entries.Pairwise fun a b => a.1 < b.1

theorem ascending_nil : Ascending ([] : Assoc α) := List.Pairwise.nil

theorem mem_insert {key : String} {value : α} {entries : Assoc α} {e : String × α}
    (h : e ∈ insert key value entries) : e = (key, value) ∨ e ∈ entries := by
  induction entries with
  | nil => simpa [insert] using h
  | cons x rest ih =>
    obtain ⟨k, v⟩ := x
    rw [insert] at h
    split at h
    · simpa using h
    · split at h <;> simp only [List.mem_cons] at h ⊢
      · exact h.imp id Or.inr
      · rcases h with h | h
        · exact .inr (.inl h)
        · exact (ih h).imp id Or.inr

theorem mem_insertAll {entries into : List (String × α)} {e : String × α}
    (h : e ∈ insertAll entries into) : e ∈ entries ∨ e ∈ into := by
  induction entries generalizing into with
  | nil => exact .inr h
  | cons x rest ih =>
    rcases ih h with h | h
    · exact .inl (List.mem_cons_of_mem _ h)
    · rcases mem_insert h with rfl | h
      · exact .inl List.mem_cons_self
      · exact .inr h

theorem Ascending.insert {entries : Assoc α} (h : Ascending entries) (key : String) (value : α) :
    Ascending (Assoc.insert key value entries) := by
  induction entries with
  | nil => exact List.pairwise_singleton _ _
  | cons x rest ih =>
    obtain ⟨k, v⟩ := x
    obtain ⟨hk, hrest⟩ := List.pairwise_cons.1 h
    rw [Assoc.insert]
    split
    · next hlt =>
      refine List.pairwise_cons.2 ⟨fun e he => ?_, h⟩
      rcases List.mem_cons.1 he with rfl | he
      · exact hlt
      · exact String.lt_trans hlt (hk e he)
    · next hlt =>
      split
      · next heq => subst heq; exact List.pairwise_cons.2 ⟨hk, hrest⟩
      · next hne =>
        refine List.pairwise_cons.2 ⟨fun e he => ?_, ih hrest⟩
        rcases mem_insert he with rfl | he
        · rcases String.le_total key k with hle | hle
          · exact absurd (String.le_antisymm hle (String.not_lt.1 hlt)) hne
          · exact String.not_le.1 fun hk' => hne (String.le_antisymm hk' hle)
        · exact hk e he

theorem Ascending.insertAll {into : Assoc α} (h : Ascending into) (entries : List (String × α)) :
    Ascending (Assoc.insertAll entries into) := by
  induction entries generalizing into with
  | nil => exact h
  | cons e rest ih => exact ih (h.insert e.1 e.2)

theorem ascending_ofList (entries : List (String × α)) : Ascending (ofList entries) :=
  ascending_nil.insertAll entries

theorem find?_insert (key key' : String) (value : α) (entries : Assoc α) :
    find? key' (insert key value entries) =
      if key = key' then some value else find? key' entries := by
  induction entries with
  | nil => simp [insert, find?]
  | cons x rest ih =>
    obtain ⟨k, v⟩ := x
    by_cases h : key = key'
    · subst h
      rw [insert]
      split
      · simp [find?]
      · split
        · simp [find?]
        · next hne => simp [find?, ih, Ne.symm hne]
    · rw [insert]
      split
      · simp [find?, h]
      · split <;> simp_all [find?]

/-! ## entries in another order -/

theorem Ascending.nodup_keys {entries : Assoc α} (h : Ascending entries) :
    (entries.map Prod.fst).Nodup := by
  refine List.pairwise_map.2 (h.imp fun {a b} hlt heq => ?_)
  rw [heq] at hlt
  exact String.lt_irrefl _ hlt

theorem Ascending.nodup {entries : Assoc α} (h : Ascending entries) : List.Nodup entries := by
  refine List.Pairwise.imp (fun {a b} hlt => ?_) h
  rintro rfl
  exact String.lt_irrefl _ hlt

/-- A lookup finds the entry of a key, wherever it is. -/
theorem Ascending.find?_eq_some_iff {entries : Assoc α} (h : Ascending entries) {key : String}
    {value : α} : find? key entries = some value ↔ (key, value) ∈ entries := by
  induction entries with
  | nil => simp [find?]
  | cons e rest ih =>
    obtain ⟨k, v⟩ := e
    obtain ⟨hbelow, hrest⟩ := List.pairwise_cons.1 h
    rw [find?, List.mem_cons, Prod.mk.injEq]
    split
    · next heq =>
      subst heq
      have hnot : (k, value) ∉ rest := fun hmem => String.lt_irrefl k (hbelow _ hmem)
      simp [hnot, eq_comm]
    · next hne => simp [ih hrest, Ne.symm hne]

theorem Ascending.eq_of_perm {a b : Assoc α} (ha : Ascending a) (hb : Ascending b)
    (h : List.Perm a b) : a = b :=
  h.eq_of_pairwise (fun _ _ _ _ hxy hyx => absurd hyx (String.lt_asymm hxy)) ha hb

/-- Entries in order are what lookups find in them. -/
theorem Ascending.eq_of_find? {a b : Assoc α} (ha : Ascending a) (hb : Ascending b)
    (h : ∀ key, find? key a = find? key b) : a = b := by
  refine ha.eq_of_perm hb ((List.perm_ext_iff_of_nodup ha.nodup hb.nodup).2 fun e => ?_)
  rw [← ha.find?_eq_some_iff, ← hb.find?_eq_some_iff, h e.1]

theorem insert_perm {key : String} {entries : Assoc α} (h : key ∉ entries.map Prod.fst)
    (value : α) : (insert key value entries).Perm ((key, value) :: entries) := by
  induction entries with
  | nil => exact .refl _
  | cons x rest ih =>
    obtain ⟨k, v⟩ := x
    rw [List.map_cons, List.mem_cons, not_or] at h
    rw [insert]
    split
    · exact .refl _
    · rw [if_neg h.1]
      exact ((ih h.2).cons _).trans (.swap _ _ _)

theorem foldr_insert_perm {entries : List (String × α)} (h : (entries.map Prod.fst).Nodup) :
    (entries.foldr (fun e acc => insert e.1 e.2 acc) []).Perm entries := by
  induction entries with
  | nil => exact .refl _
  | cons e rest ih =>
    rw [List.map_cons, List.nodup_cons] at h
    have hrest := ih h.2
    exact (insert_perm (fun hmem => h.1 ((hrest.map Prod.fst).mem_iff.1 hmem)) e.2).trans
      (hrest.cons e)

/-- Entries that are written in any order come out in their own. -/
theorem foldr_insert_of_perm {entries : Assoc α} (h : Ascending entries)
    {written : List (String × α)} (hperm : written.Perm entries) :
    written.foldr (fun e acc => insert e.1 e.2 acc) [] = entries := by
  have hnodup := (hperm.map Prod.fst).nodup_iff.2 h.nodup_keys
  have hascending : Ascending (written.foldr (fun e acc => insert e.1 e.2 acc) []) := by
    clear hperm hnodup
    induction written with
    | nil => exact ascending_nil
    | cons e rest ih => exact ih.insert e.1 e.2
  exact hascending.eq_of_perm h ((foldr_insert_perm hnodup).trans hperm)

theorem ofList_of_perm {entries : Assoc α} (h : Ascending entries) {written : List (String × α)}
    (hperm : written.Perm entries) : ofList written = entries := by
  rw [ofList, insertAll, List.foldl_eq_foldr_reverse]
  exact foldr_insert_of_perm h ((List.reverse_perm written).trans hperm)

end Assoc

end HttpChain
