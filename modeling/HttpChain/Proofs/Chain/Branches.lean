import HttpChain.Proofs.Chain.Validation
import HttpChain.Proofs.Text.Decimal
import Mathlib.Data.List.Pairwise

/-!
# HttpChain.Proofs.Chain.Branches

Which branches of a chain can be taken.  The keys of a step are told apart as
texts, its branches by their statuses, and one status has many keys: `401`,
`0401` and `+401` are three.  A chain with several keys of one status is read all
the same; the branch that is taken is the one of the first of them in the order of
the texts (`branchFor_eq`), and the others are dead.  So no branch of a step is
dead exactly if its keys name different statuses (`live_iff`), on every level of
the tree (`loadChain_live_iff`).  Different keys of three characters do
(`distinct_of_length`).
-/

namespace HttpChain

namespace Text

theorem trim_sublist (cs : List Char) : (trim cs).Sublist cs := by
  have hend : (trim cs).reverse.Sublist (trimStart cs).reverse := by
    rw [trim, trimEnd, List.reverse_reverse]
    exact List.dropWhile_sublist _
  exact (List.reverse_sublist.1 hend).trans (List.dropWhile_sublist _)

end Text

/-! ## the status of a key -/

instance (key : String) (code : Nat) : Decidable (StatusKey key code) :=
  decidable_of_iff (statusKey? key = some code) statusKey?_eq_some_iff

/-- A key names one status. -/
theorem StatusKey.unique {key : String} {m n : Nat} (hm : StatusKey key m)
    (hn : StatusKey key n) : m = n :=
  Option.some_inj.1 ((statusKey?_eq_some_iff.2 hm).symm.trans (statusKey?_eq_some_iff.2 hn))

namespace RawStep

/-- The first entry of a step whose key names a status. -/
def entryFor (s : RawStep) (status : Nat) : Option (String × List RawStep) :=
  s.onStatus.find? fun b => StatusKey b.1 status

/-- The keys of a step name different statuses. -/
def Distinct (s : RawStep) : Prop :=
  s.onStatus.Pairwise fun a b => ∀ status, StatusKey a.1 status → ¬ StatusKey b.1 status

/-- Where the keys of a step name different statuses, an entry is the first one of
the status that its key names. -/
theorem Distinct.entryFor_eq {s : RawStep} (h : s.Distinct) {b : String × List RawStep}
    (hb : b ∈ s.onStatus) {status : Nat} (hkey : StatusKey b.1 status) :
    s.entryFor status = some b := by
  cases hfirst : s.entryFor status with
  | none => exact absurd hkey (by simpa using List.find?_eq_none.1 hfirst b hb)
  | some a =>
    have ha : StatusKey a.1 status := by simpa using List.find?_some hfirst
    have hmem : a ∈ s.onStatus := List.mem_of_find?_eq_some hfirst
    have hsymm : Std.Symm fun a b : String × List RawStep =>
        ∀ status, StatusKey a.1 status → ¬ StatusKey b.1 status :=
      ⟨fun _ _ h status hb ha => h status ha hb⟩
    -- the entry that is found and the given one name the same status
    by_contra hne
    exact h.forall hmem hb (fun heq => hne (congrArg some heq)) status ha hkey

end RawStep

/-- A key of three characters consists of the digits of its status: fewer digits make
no status, so that there is no room for blanks or a sign. -/
theorem StatusKey.digits_of_length {key : String} {code : Nat} (h : StatusKey key code)
    (hlen : key.length = 3) :
    key.toList.all Text.isDigit = true ∧ Text.decimalValue key.toList = code := by
  obtain ⟨plus, digits, htrim, -, -, hdigits, rfl, hle, -⟩ := h
  have hthree : 3 ≤ digits.length := by
    by_contra hshort
    have hlt := Nat.ofDigits_lt_base_pow_length (by decide) (Text.lt_of_mem_digits hdigits)
    rw [← Text.decimalValue_eq_ofDigits, List.length_reverse, List.length_map] at hlt
    have hpow : 10 ^ digits.length ≤ 10 ^ 2 := Nat.pow_le_pow_right (by decide) (by omega)
    omega
  have hsub : digits.Sublist key.toList :=
    (List.sublist_append_right plus digits).trans (htrim ▸ Text.trim_sublist key.toList)
  have heq : digits = key.toList := hsub.eq_of_length_le (by
    rw [String.length_toList, hlen]
    exact hthree)
  rw [← heq]
  exact ⟨hdigits, rfl⟩

/-- Different keys of three characters name different statuses. -/
theorem RawStep.distinct_of_length {s : RawStep} (hkeys : (s.onStatus.map Prod.fst).Nodup)
    (hlen : ∀ b ∈ s.onStatus, b.1.length = 3) : s.Distinct := by
  rw [List.Nodup, List.pairwise_map] at hkeys
  refine hkeys.imp_of_mem fun {a b} ha hb hne status hsa hsb => hne ?_
  obtain ⟨hda, hva⟩ := hsa.digits_of_length (hlen a ha)
  obtain ⟨hdb, hvb⟩ := hsb.digits_of_length (hlen b hb)
  refine String.toList_inj.1 (Text.eq_of_decimalValue_eq hda hdb ?_ (hva.trans hvb.symm))
  rw [String.length_toList, String.length_toList, hlen a ha, hlen b hb]

/-! ## what is read is determined -/

theorem RawAssertion.Builds.build_eq {a : RawAssertion} {b : Assertion} (h : a.Builds b)
    (index : Nat) : a.build index = .ok b := by
  rw [RawAssertion.build, Comparison.ofText?_eq_some_iff.2 h.names, ← h.left, ← h.right]
  rfl

theorem buildAssertions_eq {as : List RawAssertion} {bs : List Assertion}
    (h : List.Forall₂ RawAssertion.Builds as bs) (index : Nat) :
    buildAssertions index as = .ok bs := by
  induction h with
  | nil => rfl
  | cons hab _ ih =>
    rw [buildAssertions, hab.build_eq, ih]
    rfl

theorem RawAction.Builds.build_eq {a : RawAction} {b : Action} (h : a.Builds b) :
    a.build b.assertions = b := by
  rw [RawAction.build, ← h.request, ← h.extract, ← h.locals]

namespace RawStep

mutual

/-- A step is read as what it stands for, in any place of its list. -/
theorem Builds.build_eq {s : RawStep} {t : Step} (h : Builds s t) (index : Nat) :
    s.build index = .ok t := by
  cases h with
  | mk action branches =>
    rw [build, buildAssertions_eq action.assertions, branches.build_eq index, ← action.build_eq]
    rfl

theorem BranchesBuild.build_eq {bs : List (String × List RawStep)} {cs : List (Nat × List Step)}
    (h : BranchesBuild bs cs) (index : Nat) : buildBranches index bs = .ok cs := by
  cases h with
  | nil => rfl
  | cons hkey below rest =>
    rw [buildBranches, statusKey?_eq_some_iff.2 hkey, below.build_eq 1, rest.build_eq index]
    rfl

theorem ListBuilds.build_eq {ss : List RawStep} {ts : List Step} (h : ListBuilds ss ts)
    (index : Nat) : buildList index ss = .ok ts := by
  cases h with
  | nil => rfl
  | cons step rest =>
    rw [buildList, step.build_eq index, rest.build_eq (index + 1)]
    rfl

end

end RawStep

/-! ## the steps of a tree -/

namespace Step

mutual

/-- A step and all that are below it. -/
def all : Step → List Step
  | mk a bs => mk a bs :: branchAll bs

/-- The steps of branches, on every level. -/
def branchAll : List (Nat × List Step) → List Step
  | [] => []
  | (_, ss) :: bs => listAll ss ++ branchAll bs

/-- The steps of a list, on every level. -/
def listAll : List Step → List Step
  | [] => []
  | s :: ss => s.all ++ listAll ss

end

end Step

namespace RawStep

mutual

/-- The steps of a tree are read one by one, on every level. -/
theorem Builds.all {s : RawStep} {t : Step} (h : Builds s t) (index : Nat) :
    List.Forall₂ (fun p t => p.2.Builds t) (s.places index) t.all := by
  cases h with
  | mk action branches => exact .cons (.mk action branches) branches.all

theorem BranchesBuild.all {bs : List (String × List RawStep)} {cs : List (Nat × List Step)}
    (h : BranchesBuild bs cs) :
    List.Forall₂ (fun p t => p.2.Builds t) (branchPlaces bs) (Step.branchAll cs) := by
  cases h with
  | nil => exact .nil
  | cons hkey below rest => exact List.rel_append (below.all 1) rest.all

theorem ListBuilds.all {ss : List RawStep} {ts : List Step} (h : ListBuilds ss ts)
    (index : Nat) :
    List.Forall₂ (fun p t => p.2.Builds t) (listPlaces index ss) (Step.listAll ts) := by
  cases h with
  | nil => exact .nil
  | cons step rest => exact List.rel_append (step.all index) (rest.all (index + 1))

end

/-! ## which branch is taken -/

/-- An entry and the branch that it is read as. -/
def EntryBuilds (b : String × List RawStep) (c : Nat × List Step) : Prop :=
  StatusKey b.1 c.1 ∧ ListBuilds b.2 c.2

theorem BranchesBuild.entries {bs : List (String × List RawStep)} {cs : List (Nat × List Step)}
    (h : BranchesBuild bs cs) : List.Forall₂ EntryBuilds bs cs := by
  match h with
  | .nil => exact .nil
  | .cons hkey below rest => exact .cons ⟨hkey, below⟩ rest.entries

theorem Builds.entries {s : RawStep} {t : Step} (h : Builds s t) :
    List.Forall₂ EntryBuilds s.onStatus t.branches := by
  cases h with
  | mk action branches => exact branches.entries

section

variable {bs : List (String × List RawStep)} {cs : List (Nat × List Step)}

/-- The first branch of a status is that of the first key that names it. -/
theorem find?_entries (h : List.Forall₂ EntryBuilds bs cs) (status : Nat) :
    (cs.find? fun c => c.1 = status).map Prod.snd =
      (bs.find? fun b => StatusKey b.1 status).bind fun b => (buildList 1 b.2).toOption := by
  induction h with
  | nil => rfl
  | @cons b c bs cs hbc _ ih =>
    obtain ⟨hkey, hbelow⟩ := hbc
    -- the first entry names the status exactly if the first branch has it
    by_cases hstatus : c.1 = status
    · rw [List.find?_cons_of_pos (by simpa using hstatus),
        List.find?_cons_of_pos (by simpa using hstatus ▸ hkey), Option.map_some, Option.bind_some,
        hbelow.build_eq 1]
      rfl
    · have hother : ¬ StatusKey b.1 status := fun hb => hstatus (hkey.unique hb)
      rw [List.find?_cons_of_neg (by simpa using hstatus),
        List.find?_cons_of_neg (by simpa using hother), ih]

/-- The statuses of the branches are those that the keys name. -/
theorem mem_statuses_iff (h : List.Forall₂ EntryBuilds bs cs) {status : Nat} :
    status ∈ cs.map Prod.fst ↔ ∃ b ∈ bs, StatusKey b.1 status := by
  induction h with
  | nil => simp
  | @cons b c bs cs hbc _ ih =>
    have hhead : status = c.1 ↔ StatusKey b.1 status :=
      ⟨fun heq => heq ▸ hbc.1, fun hkey => hkey.unique hbc.1⟩
    rw [List.map_cons, List.mem_cons, ih, hhead]
    simp only [List.mem_cons, or_and_right, exists_or, exists_eq_left]

/-- The branches have different statuses exactly if the keys name different ones. -/
theorem nodup_statuses_iff (h : List.Forall₂ EntryBuilds bs cs) :
    (cs.map Prod.fst).Nodup ↔
      bs.Pairwise fun a b => ∀ status, StatusKey a.1 status → ¬ StatusKey b.1 status := by
  induction h with
  | nil => simp
  | @cons b c bs cs hbc hrest ih =>
    rw [List.map_cons, List.nodup_cons, List.pairwise_cons, ih, mem_statuses_iff hrest]
    refine and_congr_left fun _ => ⟨fun hnone a ha status hb hkey => ?_, fun hall => ?_⟩
    · exact hnone ⟨a, ha, hb.unique hbc.1 ▸ hkey⟩
    · rintro ⟨a, ha, hkey⟩
      exact hall a ha c.1 hbc.1 hkey

theorem exists_entry (h : List.Forall₂ EntryBuilds bs cs) {b : String × List RawStep}
    (hb : b ∈ bs) : ∃ c, EntryBuilds b c := by
  induction h with
  | nil => cases hb
  | cons hbc _ ih =>
    rcases List.mem_cons.1 hb with rfl | hb
    · exact ⟨_, hbc⟩
    · exact ih hb

end

/-- The branch that is taken for a status is that of the first key that names
it, whatever other keys there are. -/
theorem Builds.branchFor_eq {s : RawStep} {t : Step} (h : Builds s t) (status : Nat) :
    t.branchFor status = (s.entryFor status).bind fun b => (buildList 1 b.2).toOption :=
  find?_entries h.entries status

end RawStep

/-- No branch of a step is dead: the branches have different statuses, and for the
status that a key names the branch that is taken is the one written below it. -/
structure Step.Live (s : RawStep) (t : Step) : Prop where
  statuses : (t.branches.map Prod.fst).Nodup
  reached : ∀ b ∈ s.onStatus, ∃ status ss, StatusKey b.1 status ∧
    RawStep.buildList 1 b.2 = .ok ss ∧ t.branchFor status = some ss

/-- No branch of a step is dead exactly if its keys name different statuses. -/
theorem RawStep.Builds.live_iff {s : RawStep} {t : Step} (h : Builds s t) :
    t.Live s ↔ s.Distinct := by
  refine ⟨fun hlive => (nodup_statuses_iff h.entries).1 hlive.statuses, fun hdistinct => ?_⟩
  refine ⟨(nodup_statuses_iff h.entries).2 hdistinct, fun b hb => ?_⟩
  obtain ⟨c, hkey, hbelow⟩ := exists_entry h.entries hb
  refine ⟨c.1, c.2, hkey, hbelow.build_eq 1, ?_⟩
  rw [h.branchFor_eq, hdistinct.entryFor_eq hb hkey, Option.bind_some, hbelow.build_eq 1]
  rfl

/-- Every branch of a chain that can be read can be taken, exactly where the keys of
its step name different statuses.  The steps of the chain are what is written, one
by one and on every level; the branch that a step takes for a status is that of its
first key, in the order of the keys, that names the status. -/
theorem Config.loadChain_live_iff (c : Config) (name : String) (chain : Chain)
    (h : c.loadChain name = .ok chain) :
    ∃ steps, c.chainSteps name = .ok steps ∧
      List.Forall₂ (fun p t => p.2.build p.1 = .ok t ∧
          (∀ status, t.branchFor status =
            (p.2.entryFor status).bind fun b => (RawStep.buildList 1 b.2).toOption) ∧
          (t.Live p.2 ↔ p.2.Distinct))
        (RawStep.listPlaces 1 steps) (Step.listAll chain.steps) := by
  rw [Config.loadChain] at h
  cases hsteps : c.chainSteps name with
  | error e =>
    rw [hsteps] at h
    cases h
  | ok steps =>
    rw [hsteps] at h
    have hbuilds := ((Chain.build_exact name steps).2.1 chain h).2.1
    exact ⟨steps, rfl, (hbuilds.all 1).imp fun p t hpt =>
      ⟨hpt.build_eq p.1, hpt.branchFor_eq, hpt.live_iff⟩⟩

/-- A config with one chain. -/
def flowConfig (steps : List RawStep) : Config :=
  { Config.empty with chains := Dict.empty.insert "flow" steps }

/-- A step without captures, assertions and variables of its own. -/
def plainStep (request : String) (onStatus : List (String × List RawStep)) : RawStep :=
  .mk ⟨request, {}, [], {}⟩ onStatus

/-- Steps with branches on two levels. -/
def recoveringFlow : List RawStep :=
  [plainStep "list"
    [("401", [plainStep "login" [("503", [plainStep "wait" []])], plainStep "list" []]),
      ("404", [plainStep "create" []])]]

/-- Each of the branches is taken for the status that its key names. -/
theorem loadChain_recoveringFlow :
    ∃ chain, (flowConfig recoveringFlow).loadChain "flow" = .ok chain ∧
      List.Forall₂ (fun p t => t.Live p.2) (RawStep.listPlaces 1 recoveringFlow)
        (Step.listAll chain.steps) := by
  have hload : ∃ chain, (flowConfig recoveringFlow).loadChain "flow" = .ok chain := ⟨_, rfl⟩
  obtain ⟨chain, hchain⟩ := hload
  obtain ⟨steps, hsteps, hall⟩ :=
    Config.loadChain_live_iff (flowConfig recoveringFlow) "flow" chain hchain
  cases hsteps
  have hdistinct : ∀ p ∈ RawStep.listPlaces 1 recoveringFlow, p.2.Distinct := fun p hp =>
    RawStep.distinct_of_length (by revert p; decide) (by revert p; decide)
  exact ⟨chain, hchain, ((List.forall₂_and_left _ _).2 ⟨hdistinct, hall⟩).imp fun p t h =>
    h.2.2.2.2 h.1⟩

/-- Steps with two keys of one status. -/
def repeatedFlow : List RawStep :=
  [plainStep "list"
    [("0401", [plainStep "refresh" []]), ("401", [plainStep "login" [], plainStep "list" []])]]

/-- The chain is read, and the two steps below the key `401` are never run: for that
status the one step below the key `0401` is. -/
theorem loadChain_repeatedFlow :
    ∃ t, (flowConfig repeatedFlow).loadChain "flow" = .ok ⟨"flow", [t]⟩ ∧
      t.branches.map Prod.fst = [401, 401] ∧
      t.branchFor 401 = some [.mk ⟨"refresh", [], [], []⟩ []] ∧
      ¬ List.Forall₂ (fun p t => t.Live p.2) (RawStep.listPlaces 1 repeatedFlow)
        (Step.listAll [t]) := by
  refine ⟨_, rfl, rfl, rfl, fun hall => ?_⟩
  cases hall with
  | cons hlive _ => exact absurd hlive.statuses (by decide)

end HttpChain
