import HttpChain.Dict
import Mathlib.Data.List.Nodup

/-!
# HttpChain.Proofs.Writes

Writing one value after the other.  Headers and the settings of a config are
written in turn, and what is read at a place afterwards is the last value that was
written there (`get_foldl`), or what stood there before.
-/

namespace HttpChain

section LastWrite

variable {α β : Type} {p : α → Bool}

/-- The value of the last write at a place that a test picks out. -/
def lastWrite? (p : α → Bool) : List (α × β) → Option β
  | [] => none
  | w :: ws => (lastWrite? p ws).or (if p w.1 then some w.2 else none)

/-- What is read after all writes, if each of them is seen where it belongs and
nowhere else. -/
theorem get_foldl {σ : Type} (get : σ → Option β) {write : σ → α × β → σ}
    (h : ∀ s w, get (write s w) = if p w.1 then some w.2 else get s) (ws : List (α × β)) (s : σ) :
    get (ws.foldl write s) = (lastWrite? p ws).or (get s) := by
  induction ws generalizing s with
  | nil => rfl
  | cons w ws ih =>
    rw [List.foldl_cons, ih, h, lastWrite?]
    cases lastWrite? p ws <;> cases p w.1 <;> rfl

theorem mem_of_lastWrite? {ws : List (α × β)} {v : β} (h : lastWrite? p ws = some v) :
    ∃ a, (a, v) ∈ ws ∧ p a = true := by
  induction ws with
  | nil => cases h
  | cons w ws ih =>
    rw [lastWrite?] at h
    rcases Option.or_eq_some_iff.1 h with h | ⟨-, h⟩
    · obtain ⟨a, hmem, ha⟩ := ih h
      exact ⟨a, List.mem_cons_of_mem _ hmem, ha⟩
    · split at h
      · next hw =>
        cases h
        exact ⟨w.1, List.mem_cons_self, hw⟩
      · cases h

theorem lastWrite?_eq_none_iff {ws : List (α × β)} :
    lastWrite? p ws = none ↔ ∀ w ∈ ws, p w.1 = false := by
  induction ws with
  | nil => simp [lastWrite?]
  | cons w ws ih => simp [lastWrite?, ih, and_comm]

theorem lastWrite?_eq_none_iff_not_mem [DecidableEq α] {ws : List (α × β)} {a : α} :
    lastWrite? (fun b => decide (b = a)) ws = none ↔ a ∉ ws.map Prod.fst := by
  simp only [lastWrite?_eq_none_iff, decide_eq_false_iff_not, List.mem_map, not_exists, not_and]

/-- The last write is the one behind which all writes are elsewhere. -/
theorem lastWrite?_eq_some_iff {ws : List (α × β)} {v : β} :
    lastWrite? p ws = some v ↔ ∃ before a after, ws = before ++ (a, v) :: after ∧ p a = true ∧
      ∀ w ∈ after, p w.1 = false := by
  constructor
  · intro h
    induction ws with
    | nil => cases h
    | cons w ws ih =>
      rw [lastWrite?, Option.or_eq_some_iff] at h
      rcases h with h | ⟨hnone, h⟩
      · obtain ⟨before, a, after, rfl, ha, hafter⟩ := ih h
        exact ⟨w :: before, a, after, rfl, ha, hafter⟩
      · split at h
        · next hw =>
          cases h
          exact ⟨[], w.1, ws, rfl, hw, lastWrite?_eq_none_iff.1 hnone⟩
        · cases h
  · rintro ⟨before, a, after, rfl, ha, hafter⟩
    induction before with
    | nil => rw [List.nil_append, lastWrite?, lastWrite?_eq_none_iff.2 hafter, if_pos ha]; rfl
    | cons w before ih => rw [List.cons_append, lastWrite?, ih, Option.some_or]

/-- Where all writes agree, the last one is any of them. -/
theorem lastWrite?_eq_some {ws : List (α × β)} {a : α} {v : β} (hmem : (a, v) ∈ ws)
    (ha : p a = true) (hall : ∀ w ∈ ws, p w.1 = true → w.2 = v) : lastWrite? p ws = some v := by
  cases hlast : lastWrite? p ws with
  | none =>
    rw [lastWrite?_eq_none_iff.1 hlast _ hmem] at ha
    cases ha
  | some u =>
    obtain ⟨b, hb, hpb⟩ := mem_of_lastWrite? hlast
    rw [← hall _ hb hpb]

/-- Where all writes to a place agree, the last one there is any of them. -/
theorem lastWrite?_eq_some_iff_mem [DecidableEq α] {ws : List (α × β)} {a : α} {v : β}
    (h : ∀ v v', (a, v) ∈ ws → (a, v') ∈ ws → v = v') :
    lastWrite? (fun b => decide (b = a)) ws = some v ↔ (a, v) ∈ ws := by
  constructor
  · intro hlast
    obtain ⟨b, hmem, hb⟩ := mem_of_lastWrite? hlast
    simp only [decide_eq_true_eq] at hb
    rwa [← hb]
  · intro hmem
    refine lastWrite?_eq_some hmem (by simp) fun w hw hplace => ?_
    obtain ⟨b, v'⟩ := w
    simp only [decide_eq_true_eq] at hplace
    subst hplace
    exact h _ _ hw hmem

theorem lastWrite?_append (xs ys : List (α × β)) :
    lastWrite? p (xs ++ ys) = (lastWrite? p ys).or (lastWrite? p xs) := by
  induction xs with
  | nil => simp [lastWrite?]
  | cons x xs ih => rw [List.cons_append, lastWrite?, ih, Option.or_assoc, lastWrite?]

section Sources

variable {σ : Type} {f : σ → List (α × β)} {sources : List σ}

theorem lastWrite?_flatMap_eq_none_iff :
    lastWrite? p (sources.flatMap f) = none ↔ ∀ x ∈ sources, lastWrite? p (f x) = none := by
  simp only [lastWrite?_eq_none_iff, List.mem_flatMap]
  constructor
  · exact fun h x hx w hw => h w ⟨x, hx, hw⟩
  · exact fun h w ⟨x, hx, hw⟩ => h x hx w hw

/-- The last write of all is that of the last source that writes at the place. -/
theorem lastWrite?_flatMap_eq_some_iff {v : β} :
    lastWrite? p (sources.flatMap f) = some v ↔ ∃ before x after,
      sources = before ++ x :: after ∧ lastWrite? p (f x) = some v ∧
        ∀ y ∈ after, lastWrite? p (f y) = none := by
  constructor
  · intro h
    induction sources with
    | nil => cases h
    | cons x sources ih =>
      rw [List.flatMap_cons, lastWrite?_append, Option.or_eq_some_iff] at h
      cases h with
      | inl h =>
        obtain ⟨before, y, after, hsources, hy, hafter⟩ := ih h
        exact ⟨x :: before, y, after, by rw [hsources, List.cons_append], hy, hafter⟩
      | inr h => exact ⟨[], x, sources, rfl, h.2, lastWrite?_flatMap_eq_none_iff.1 h.1⟩
  · intro h
    obtain ⟨before, x, after, rfl, hx, hafter⟩ := h
    rw [List.flatMap_append, lastWrite?_append, List.flatMap_cons, lastWrite?_append,
      lastWrite?_flatMap_eq_none_iff.2 hafter, hx]
    rfl

end Sources

theorem lastWrite?_map {γ : Type} (f : β → γ) (ws : List (α × β)) :
    lastWrite? p (ws.map fun w => (w.1, f w.2)) = (lastWrite? p ws).map f := by
  induction ws with
  | nil => rfl
  | cons w ws ih =>
    rw [List.map_cons, lastWrite?, lastWrite?, ih]
    cases lastWrite? p ws <;> cases p w.1 <;> rfl

end LastWrite

/-- A map holds what was last written at a key. -/
theorem Dict.get?_insertAll {α : Type} (d : Dict α) (entries : List (String × α)) (key : String) :
    (d.insertAll entries).get? key =
      (lastWrite? (fun k => decide (k = key)) entries).or (d.get? key) := by
  induction entries generalizing d with
  | nil => rfl
  | cons e entries ih =>
    rw [Dict.insertAll_cons, ih, Dict.get?_insert, lastWrite?]
    cases lastWrite? (fun k => decide (k = key)) entries with
    | some value => rfl
    | none => by_cases h : e.1 = key <;> simp [h]

/-- Entries of different keys are written in any order. -/
theorem Dict.insertAll_perm {α : Type} (d : Dict α) {xs ys : List (String × α)} (h : xs.Perm ys)
    (hkeys : (xs.map Prod.fst).Nodup) : d.insertAll xs = d.insertAll ys := by
  refine Dict.eq_of_get? fun key => ?_
  have hagree : ∀ v v', (key, v) ∈ xs → (key, v') ∈ xs → v = v' := by
    intro v v' hv hv'
    have hsame : (key, v) = (key, v') := List.inj_on_of_nodup_map hkeys hv hv' rfl
    exact congrArg Prod.snd hsame
  have hlast : lastWrite? (fun k => decide (k = key)) xs =
      lastWrite? (fun k => decide (k = key)) ys := by
    ext v
    rw [lastWrite?_eq_some_iff_mem hagree, h.mem_iff, lastWrite?_eq_some_iff_mem]
    exact fun v v' hv hv' => hagree v v' (h.mem_iff.2 hv) (h.mem_iff.2 hv')
  rw [get?_insertAll, get?_insertAll, hlast]

namespace Assoc

variable {α : Type}

/-- Among entries in order, the last one that a test picks out has the greatest key
that does. -/
theorem Ascending.lastWrite?_eq_some_iff {entries : Assoc α} (h : entries.Ascending)
    {p : String → Bool} {v : α} : lastWrite? p entries = some v ↔
      ∃ key, (key, v) ∈ entries ∧ p key = true ∧ ∀ e ∈ entries, p e.1 = true → e.1 ≤ key := by
  induction entries with
  | nil => simp [lastWrite?]
  | cons e rest ih =>
    obtain ⟨hbelow, hrest⟩ := List.pairwise_cons.1 h
    rw [lastWrite?, Option.or_eq_some_iff, ih hrest, lastWrite?_eq_none_iff]
    constructor
    · rintro (⟨key, hmem, hkey, hmax⟩ | ⟨hnone, he⟩)
      · refine ⟨key, List.mem_cons_of_mem _ hmem, hkey, fun d hd hp => ?_⟩
        rcases List.mem_cons.1 hd with rfl | hd
        · exact String.not_lt.1 (String.lt_asymm (hbelow _ hmem))
        · exact hmax d hd hp
      · split at he
        · next hp =>
          cases he
          refine ⟨e.1, List.mem_cons_self, hp, fun d hd hpd => ?_⟩
          rcases List.mem_cons.1 hd with rfl | hd
          · exact String.le_refl _
          · rw [hnone d hd] at hpd
            cases hpd
        · cases he
    · rintro ⟨key, hmem, hkey, hmax⟩
      rcases List.mem_cons.1 hmem with rfl | hmem
      · refine .inr ⟨fun d hd => ?_, if_pos hkey⟩
        by_contra hp
        have hle := hmax d (List.mem_cons_of_mem _ hd) (by simpa using hp)
        exact String.not_le.2 (hbelow d hd) hle
      · exact .inl ⟨key, hmem, hkey, fun d hd => hmax d (List.mem_cons_of_mem _ hd)⟩

end Assoc

end HttpChain
