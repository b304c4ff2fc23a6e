import HttpChain.Config.Store
import HttpChain.Proofs.Config.Reading
import HttpChain.Proofs.Config.WriteBack

/-!
# HttpChain.Proofs.Config.Reachable

The configs a user can come by: those that are loaded, and what writing
settings, saving requests and writing values of responses back make of them.
The branches of their steps are in order, as reading puts them in order and
nothing else changes the chains.
-/

namespace HttpChain

open Toml

/-! ## values that are read -/

namespace Toml

theorem exists_mem_of_mapM {α β : Type} {f : α → Option β} {as : List α} {bs : List β}
    (h : as.mapM f = some bs) {b : β} (hb : b ∈ bs) : ∃ a ∈ as, f a = some b := by
  induction as generalizing bs with
  | nil =>
    cases h
    cases hb
  | cons a as ih =>
    rw [List.mapM_cons] at h
    obtain ⟨c, hc, h⟩ := Option.bind_eq_some_iff.1 h
    obtain ⟨cs, hcs, h⟩ := Option.bind_eq_some_iff.1 h
    cases h
    rcases List.mem_cons.1 hb with rfl | hb
    · exact ⟨a, List.mem_cons_self, hc⟩
    · obtain ⟨x, hx, hfx⟩ := ih hcs hb
      exact ⟨x, List.mem_cons_of_mem _ hx, hfx⟩

/-- What holds of everything that is read holds of the values of a table. -/
theorem forall_of_dict? {α : Type} {read : Toml → Option α} {P : α → Prop}
    (hread : ∀ v a, read v = some a → P a) {v : Toml} {d : Dict α} (h : dict? read v = some d) :
    ∀ e ∈ d.toList, P e.2 := by
  match v with
  | .table es =>
    obtain ⟨entries, hentries, rfl⟩ := Option.map_eq_some_iff.1 h
    intro e he
    rcases Assoc.mem_insertAll he with he | he
    · obtain ⟨f, -, hf⟩ := exists_mem_of_mapM hentries he
      obtain ⟨a, ha, rfl⟩ := Option.map_eq_some_iff.1 hf
      exact hread _ _ ha
    · cases he

end Toml

/-! ## steps that are read -/

namespace RawStep

/-- Branches are in order if the steps of each are. -/
theorem branchesOrdered_iff {branches : List (String × List RawStep)} :
    BranchesOrdered branches ↔ ∀ b ∈ branches, ListOrdered b.2 := by
  induction branches with
  | nil => simp [BranchesOrdered]
  | cons b branches ih =>
    obtain ⟨status, steps⟩ := b
    rw [BranchesOrdered, ih, List.forall_mem_cons]

mutual

/-- The branches of a step that is read are put in order. -/
theorem ordered_of_ofToml? (v : Toml) {s : RawStep} (h : ofToml? v = some s) : s.Ordered := by
  match v with
  | .table es =>
    rw [ofToml?] at h
    obtain ⟨a, -, h⟩ := Option.bind_eq_some_iff.1 h
    obtain ⟨branches, hbranches, h⟩ := Option.bind_eq_some_iff.1 h
    cases h
    exact ordered_of_onStatus? es hbranches
  | .array (request :: extract :: assertions :: locals :: branches :: _) =>
    rw [ofToml?] at h
    obtain ⟨a, -, h⟩ := Option.bind_eq_some_iff.1 h
    obtain ⟨branches, hbranches, h⟩ := Option.bind_eq_some_iff.1 h
    cases h
    exact ordered_of_branches? _ hbranches
  | .array [] | .array [_] | .array [_, _] | .array [_, _, _] | .array [_, _, _, _] =>
    simp only [ofToml?] at h
    obtain ⟨a, -, h⟩ := Option.bind_eq_some_iff.1 h
    cases h
    exact ⟨Assoc.ascending_nil, trivial⟩

/-- The branches that are read under `on_status` come in the order of their keys. -/
theorem ordered_of_onStatus? (es : List (String × Toml)) {branches : List (String × List RawStep)}
    (h : onStatus? es = some branches) :
    Assoc.Ascending branches ∧ BranchesOrdered branches := by
  match es with
  | [] =>
    cases h
    exact ⟨Assoc.ascending_nil, trivial⟩
  | (k, v) :: es =>
    rw [onStatus?] at h
    split at h
    · exact ordered_of_branches? v h
    · exact ordered_of_onStatus? es h

/-- Branches that are read from a table come in the order of their keys. -/
theorem ordered_of_branches? (v : Toml) {branches : List (String × List RawStep)}
    (h : branches? v = some branches) :
    Assoc.Ascending branches ∧ BranchesOrdered branches := by
  match v with
  | .table es => exact ordered_of_branchList? es h

/-- Entries that are read as branches come in the order of their keys. -/
theorem ordered_of_branchList? (es : List (String × Toml)) {branches : List (String × List RawStep)}
    (h : branchList? es = some branches) :
    Assoc.Ascending branches ∧ BranchesOrdered branches := by
  match es with
  | [] =>
    cases h
    exact ⟨Assoc.ascending_nil, trivial⟩
  | (status, v) :: es =>
    rw [branchList?] at h
    obtain ⟨steps, hsteps, h⟩ := Option.bind_eq_some_iff.1 h
    obtain ⟨rest, hrest, h⟩ := Option.bind_eq_some_iff.1 h
    cases h
    have hlist := ordered_of_list? v hsteps
    have hothers := ordered_of_branchList? es hrest
    refine ⟨hothers.1.insert status steps, branchesOrdered_iff.2 fun b hb => ?_⟩
    rcases Assoc.mem_insert hb with rfl | hb
    · exact hlist
    · exact branchesOrdered_iff.1 hothers.2 b hb

/-- Steps that are read have their branches in order. -/
theorem ordered_of_list? (v : Toml) {steps : List RawStep} (h : list? v = some steps) :
    ListOrdered steps := by
  match v with
  | .array vs => exact ordered_of_elements? vs h

/-- Elements that are read as steps have their branches in order. -/
theorem ordered_of_elements? (vs : List Toml) {steps : List RawStep}
    (h : elements? vs = some steps) : ListOrdered steps := by
  match vs with
  | [] =>
    cases h
    trivial
  | v :: vs =>
    rw [elements?] at h
    obtain ⟨step, hstep, h⟩ := Option.bind_eq_some_iff.1 h
    obtain ⟨rest, hrest, h⟩ := Option.bind_eq_some_iff.1 h
    cases h
    exact ⟨ordered_of_ofToml? v hstep, ordered_of_elements? vs hrest⟩

end

end RawStep

/-! ## configs that are read -/

/-- A config is read from a file with a text that is read as it. -/
theorem ConfigFile.readAt_eq_ok_iff {t : FileTree} {path : String} {c : Config} :
    ConfigFile.readAt t path = .ok c ↔
      ∃ text, t.readText path = .ok text ∧ Config.read? text = some c := by
  rw [readAt]
  cases t.readText path with
  | error f => simp [throw, throwThe, MonadExceptOf.throw]
  | ok text =>
    simp only [Except.ok.injEq, exists_eq_left']
    cases Config.read? text <;> simp [pure, Except.pure, throw, throwThe, MonadExceptOf.throw]

namespace Config

/-- A config that is read has its branches in order. -/
theorem ordered_of_ofDocument? {es : List (String × Toml)} {c : Config}
    (h : ofDocument? es = some c) : c.Ordered := by
  obtain ⟨baseUrl, -, h⟩ := Option.bind_eq_some_iff.1 h
  obtain ⟨timeout, -, h⟩ := Option.bind_eq_some_iff.1 h
  obtain ⟨headers, -, h⟩ := Option.bind_eq_some_iff.1 h
  obtain ⟨auth, -, h⟩ := Option.bind_eq_some_iff.1 h
  obtain ⟨requests, -, h⟩ := Option.bind_eq_some_iff.1 h
  obtain ⟨chains, hchains, h⟩ := Option.bind_eq_some_iff.1 h
  cases h
  intro e he
  rw [field?] at hchains
  split at hchains
  · cases hchains
    cases he
  · exact forall_of_dict? (fun v _ => RawStep.ordered_of_list? v) hchains e he

theorem ordered_empty : empty.Ordered := fun e he => by cases he

/-! ## configs that are changed -/

/-- Setting a value leaves the chains as they are. -/
theorem chains_setValue {c c' : Config} {key value : String} (h : c.setValue key value = .ok c') :
    c'.chains = c.chains := by
  rw [setValue] at h
  split at h
  · cases h
    exact congrArg (·.2.2) (c.rest_set value _)
  · cases h

/-- What a request writes back leaves the chains as they are. -/
theorem chains_writeBack (c : Config) (t : RequestTemplate) (response : Response) :
    (c.writeBack t response).config.chains = c.chains := by
  rw [config_writeBack]
  exact congrArg (·.2.2) (c.rest_setAll (t.writes response))

/-- The configs a user can come by. -/
inductive Reachable : Config → Prop where
  | load {t : FileTree} {explicit bundle : Option String} {f : ConfigFile}
      (h : (ConfigFile.load t explicit bundle).1 = .ok f) : Reachable f.config
  | setValue {c c' : Config} {key value : String} (hc : Reachable c)
      (h : c.setValue key value = .ok c') : Reachable c'
  | saveRequest {c : Config} (hc : Reachable c) (name : String) (t : RequestTemplate) :
      Reachable (c.saveRequest name t)
  | writeBack {c : Config} (hc : Reachable c) (t : RequestTemplate) (response : Response) :
      Reachable (c.writeBack t response).config

/-- A config that is read has its branches in order. -/
theorem ordered_of_readAt {t : FileTree} {path : String} {c : Config}
    (h : ConfigFile.readAt t path = .ok c) : c.Ordered := by
  obtain ⟨text, -, hread⟩ := ConfigFile.readAt_eq_ok_iff.1 h
  obtain ⟨es, -, hes⟩ := Option.bind_eq_some_iff.1 hread
  exact ordered_of_ofDocument? hes

/-- A config that is loaded has its branches in order, from whatever place it comes. -/
theorem ordered_of_load {t : FileTree} {explicit bundle : Option String} {f : ConfigFile}
    (h : (ConfigFile.load t explicit bundle).1 = .ok f) : f.config.Ordered := by
  have hread (path : String) (h : (ConfigFile.readAt t path).map (⟨·, path⟩) = .ok f) :
      f.config.Ordered := by
    cases hc : ConfigFile.readAt t path with
    | error e =>
      rw [hc] at h
      cases h
    | ok c =>
      rw [hc] at h
      cases h
      exact ordered_of_readAt hc
  cases explicit with
  | some path => exact hread path h
  | none =>
    simp only [ConfigFile.load] at h
    split at h
    · exact hread _ h
    · cases h
      exact ordered_empty

/-- The branches of the steps are in order in every config a user can come by. -/
theorem Reachable.ordered {c : Config} (h : c.Reachable) : c.Ordered := by
  induction h with
  | load h => exact ordered_of_load h
  | setValue _ h ih => rwa [Ordered, chains_setValue h]
  | saveRequest _ name t ih => exact ih
  | writeBack _ t response ih => rwa [Ordered, chains_writeBack]

end Config

end HttpChain
