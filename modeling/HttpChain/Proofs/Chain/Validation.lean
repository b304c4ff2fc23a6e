import HttpChain.Run.Chain
import Mathlib.Data.List.Forall2

/-!
# HttpChain.Proofs.Chain.Validation

What can be read as a chain, and what it is read as.  An operator has to be the
sign of a comparison and a status key a number from 100 to 599, on every level
of the tree.  `RawStep.listOffences` lists what is wrong with a tree in the order in
which it is read; reading a chain fails with the first of these, and where
there is none it builds a tree of the same shape (`build_exact`).
-/

namespace HttpChain

/-! ## what can be read -/

/-- The operator of an assertion is the sign of a comparison, apart from blanks
around it. -/
def RawAssertion.Names (a : RawAssertion) (c : Comparison) : Prop :=
  Text.strip a.operator = c.symbol

/-- A status key is a number from 100 to 599, apart from blanks around it:
decimal digits, which may have a plus sign in front of them. -/
def StatusKey (key : String) (code : Nat) : Prop :=
  ∃ plus digits, Text.trim key.toList = plus ++ digits ∧ (plus = [] ∨ plus = ['+']) ∧
    digits ≠ [] ∧ digits.all Text.isDigit = true ∧ Text.decimalValue digits = code ∧
    100 ≤ code ∧ code < 600

/-- A status key is read off its digits, behind the plus sign if there is one. -/
theorem statusKey?_of_trim {key : String} {plus digits : List Char}
    (htrim : Text.trim key.toList = plus ++ digits)
    (hplus : plus = [] ∧ digits.head? ≠ some '+' ∨ plus = ['+']) :
    statusKey? key =
      if digits ≠ [] ∧ digits.all Text.isDigit = true ∧ 100 ≤ Text.decimalValue digits ∧
          Text.decimalValue digits < 600 then
        some (Text.decimalValue digits) else none := by
  rcases hplus with ⟨rfl, hdigits⟩ | rfl
  · rw [statusKey?, htrim, List.nil_append]
    split
    · next ds => simp at hdigits
    · rfl
  · rw [statusKey?, htrim]
    rfl

theorem statusKey?_eq_some_iff {key : String} {code : Nat} :
    statusKey? key = some code ↔ StatusKey key code := by
  constructor
  · intro h
    have hsplit : ∃ plus digits, Text.trim key.toList = plus ++ digits ∧
        (plus = [] ∧ digits.head? ≠ some '+' ∨ plus = ['+']) := by
      by_cases hhead : (Text.trim key.toList).head? = some '+'
      · obtain ⟨ds, hds⟩ := List.head?_eq_some_iff.1 hhead
        exact ⟨['+'], ds, hds, .inr rfl⟩
      · exact ⟨[], _, rfl, .inl ⟨rfl, hhead⟩⟩
    obtain ⟨plus, digits, htrim, hplus⟩ := hsplit
    rw [statusKey?_of_trim htrim hplus] at h
    split at h
    · next hfits =>
      cases h
      exact ⟨plus, digits, htrim, hplus.imp And.left id, hfits.1, hfits.2.1, rfl, hfits.2.2⟩
    · cases h
  · rintro ⟨plus, digits, htrim, hplus, hne, hdigits, rfl, hcode⟩
    have hhead : digits.head? ≠ some '+' := by
      intro h
      have hmem := List.mem_of_mem_head? h
      exact absurd (List.all_eq_true.1 hdigits _ hmem) (by decide)
    rw [statusKey?_of_trim htrim (hplus.imp (⟨·, hhead⟩) id), if_pos ⟨hne, hdigits, hcode⟩]

instance (a : RawAssertion) : Decidable (∃ c, a.Names c) :=
  decidable_of_iff ((Comparison.ofText? a.operator).isSome = true) (by
    simp only [Option.isSome_iff_exists, Comparison.ofText?_eq_some_iff, RawAssertion.Names])

instance (key : String) : Decidable (∃ code, StatusKey key code) :=
  decidable_of_iff ((statusKey? key).isSome = true) (by
    simp only [Option.isSome_iff_exists, statusKey?_eq_some_iff])

/-! ## what is wrong -/

namespace RawStep

mutual

/-- A step and all that are below it, each with its place in its own list. -/
def places (index : Nat) : RawStep → List (Nat × RawStep)
  | mk a bs => (index, mk a bs) :: branchPlaces bs

/-- The steps of branches, on every level. -/
def branchPlaces : List (String × List RawStep) → List (Nat × RawStep)
  | [] => []
  | (_, ss) :: bs => listPlaces 1 ss ++ branchPlaces bs

/-- The steps of a list, on every level; the first of them has the given
place. -/
def listPlaces (index : Nat) : List RawStep → List (Nat × RawStep)
  | [] => []
  | s :: ss => places index s ++ listPlaces (index + 1) ss

end

/-- A step whose operators and status keys can be read. -/
structure Readable (s : RawStep) : Prop where
  operators : ∀ a ∈ s.action.assertions, ∃ c, a.Names c
  keys : ∀ b ∈ s.onStatus, ∃ code, StatusKey b.1 code

/-- An error for something that cannot be read in the step at a place: it gives
the text as it is written and the place. -/
def Faulty (p : Nat × RawStep) (e : Error) : Prop :=
  (∃ a ∈ p.2.action.assertions, (¬ ∃ c, a.Names c) ∧ e = .unknownOperator a.operator p.1) ∨
    ∃ b ∈ p.2.onStatus, (¬ ∃ code, StatusKey b.1 code) ∧ e = .invalidStatus b.1 p.1

/-- The errors of the assertions of a step. -/
def assertionOffences (index : Nat) (as : List RawAssertion) : List Error :=
  as.flatMap fun a => if ∃ c, a.Names c then [] else [.unknownOperator a.operator index]

mutual

/-- What is wrong with a step: its assertions first, then its branches. -/
def offences (index : Nat) : RawStep → List Error
  | mk a bs => assertionOffences index a.assertions ++ branchOffences index bs

/-- What is wrong with branches: each key, and then the steps below it. -/
def branchOffences (index : Nat) : List (String × List RawStep) → List Error
  | [] => []
  | (key, ss) :: bs =>
    (if ∃ code, StatusKey key code then [] else [.invalidStatus key index]) ++
      (listOffences 1 ss ++ branchOffences index bs)

/-- What is wrong with the steps of a list, in order. -/
def listOffences (index : Nat) : List RawStep → List Error
  | [] => []
  | s :: ss => offences index s ++ listOffences (index + 1) ss

end

theorem mem_assertionOffences {index : Nat} {as : List RawAssertion} {e : Error} :
    e ∈ assertionOffences index as ↔
      ∃ a ∈ as, (¬ ∃ c, a.Names c) ∧ e = .unknownOperator a.operator index := by
  rw [assertionOffences, List.mem_flatMap]
  refine exists_congr fun a => and_congr_right fun _ => ?_
  split
  · next h => simp [h]
  · next h => simp [h]

mutual

/-- The errors of a step are those of the steps in it, on every level. -/
theorem mem_offences {index : Nat} {s : RawStep} {e : Error} :
    e ∈ s.offences index ↔ ∃ p ∈ s.places index, Faulty p e := by
  obtain ⟨a, bs⟩ := s
  simp only [offences, places, List.mem_append, mem_assertionOffences, mem_branchOffences,
    List.mem_cons, or_and_right, exists_or, exists_eq_left]
  rw [← or_assoc]
  rfl

theorem mem_branchOffences {index : Nat} {bs : List (String × List RawStep)} {e : Error} :
    e ∈ branchOffences index bs ↔
      (∃ b ∈ bs, (¬ ∃ code, StatusKey b.1 code) ∧ e = .invalidStatus b.1 index) ∨
        ∃ p ∈ branchPlaces bs, Faulty p e := by
  match bs with
  | [] => simp [branchOffences, branchPlaces]
  | (key, ss) :: bs =>
    have hkey : e ∈ (if ∃ code, StatusKey key code then [] else [Error.invalidStatus key index]) ↔
        (¬ ∃ code, StatusKey key code) ∧ e = .invalidStatus key index := by
      split
      · next h => simp [h]
      · next h => simp [h]
    simp only [branchOffences, branchPlaces, List.mem_append, hkey, mem_listOffences,
      mem_branchOffences, List.mem_cons, or_and_right, exists_or, exists_eq_left]
    rw [or_assoc, or_left_comm (a := ∃ p, p ∈ listPlaces 1 ss ∧ Faulty p e)]

theorem mem_listOffences {index : Nat} {ss : List RawStep} {e : Error} :
    e ∈ listOffences index ss ↔ ∃ p ∈ listPlaces index ss, Faulty p e := by
  match ss with
  | [] => simp [listOffences, listPlaces]
  | s :: ss =>
    rw [listOffences, listPlaces, List.mem_append, mem_offences, mem_listOffences]
    simp only [List.mem_append, or_and_right, exists_or]

end

/-- Nothing is wrong with steps that can be read on every level. -/
theorem listOffences_eq_nil_iff {index : Nat} {ss : List RawStep} :
    listOffences index ss = [] ↔ ∀ p ∈ listPlaces index ss, p.2.Readable := by
  rw [List.eq_nil_iff_forall_not_mem]
  constructor
  · intro h p hp
    refine ⟨fun a ha => ?_, fun b hb => ?_⟩
    · by_contra hnames
      exact h _ (mem_listOffences.2 ⟨p, hp, .inl ⟨a, ha, hnames, rfl⟩⟩)
    · by_contra hkey
      exact h _ (mem_listOffences.2 ⟨p, hp, .inr ⟨b, hb, hkey, rfl⟩⟩)
  · intro h e he
    obtain ⟨p, hp, ⟨a, ha, hnames, -⟩ | ⟨b, hb, hkey, -⟩⟩ := mem_listOffences.1 he
    · exact hnames ((h p hp).operators a ha)
    · exact hkey ((h p hp).keys b hb)

end RawStep

/-! ## what it is read as -/

/-- An assertion and what it is read as. -/
structure RawAssertion.Builds (a : RawAssertion) (b : Assertion) : Prop where
  left : b.left = a.left
  names : a.Names b.comparison
  right : b.right = a.right

/-- What a step does itself, as it is written and as it is read: its captures
and its variables are in the order of their names. -/
structure RawAction.Builds (a : RawAction) (b : Action) : Prop where
  request : b.request = Text.strip a.request
  extract : b.extract = a.extract.toList.map fun e => ⟨e.1, e.2⟩
  assertions : List.Forall₂ RawAssertion.Builds a.assertions b.assertions
  locals : b.locals = a.locals.toList

namespace RawStep

mutual

/-- A step and what it is read as. -/
inductive Builds : RawStep → Step → Prop
  | mk {a : RawAction} {b : Action} {bs : List (String × List RawStep)}
      {cs : List (Nat × List Step)} (action : a.Builds b) (branches : BranchesBuild bs cs) :
      Builds (mk a bs) (.mk b cs)

/-- Branches and what they are read as: one for each key, in the same order. -/
inductive BranchesBuild : List (String × List RawStep) → List (Nat × List Step) → Prop
  | nil : BranchesBuild [] []
  | cons {key : String} {code : Nat} {ss : List RawStep} {ts : List Step}
      {bs : List (String × List RawStep)} {cs : List (Nat × List Step)} (hkey : StatusKey key code)
      (below : ListBuilds ss ts) (rest : BranchesBuild bs cs) :
      BranchesBuild ((key, ss) :: bs) ((code, ts) :: cs)

/-- Steps and what they are read as, one by one. -/
inductive ListBuilds : List RawStep → List Step → Prop
  | nil : ListBuilds [] []
  | cons {s : RawStep} {t : Step} {ss : List RawStep} {ts : List Step} (step : Builds s t)
      (rest : ListBuilds ss ts) : ListBuilds (s :: ss) (t :: ts)

end

mutual

/-- A step is read as one with as many steps in it. -/
theorem Builds.count_eq {s : RawStep} {t : Step} (h : Builds s t) (index : Nat) :
    t.count = (s.places index).length := by
  cases h with
  | mk action branches => rw [Step.count, places, List.length_cons, branches.count_eq, Nat.add_comm]

theorem BranchesBuild.count_eq {bs : List (String × List RawStep)} {cs : List (Nat × List Step)}
    (h : BranchesBuild bs cs) : Step.branchCount cs = (branchPlaces bs).length := by
  cases h with
  | nil => rfl
  | cons hkey below rest =>
    rw [Step.branchCount, branchPlaces, List.length_append, below.count_eq 1, rest.count_eq]

theorem ListBuilds.count_eq {ss : List RawStep} {ts : List Step} (h : ListBuilds ss ts)
    (index : Nat) : Step.listCount ts = (listPlaces index ss).length := by
  cases h with
  | nil => rfl
  | cons step rest =>
    rw [Step.listCount, listPlaces, List.length_append, step.count_eq index,
      rest.count_eq (index + 1)]

end

end RawStep

/-! ## reading up to the first mistake -/

/-- What comes of reading something with which the given things are wrong: the
first of them or, if there is none, a result as described. -/
def Reads {α : Type} (offences : List Error) (P : α → Prop) (x : Except Error α) : Prop :=
  match offences with
  | [] => ∃ a, x = .ok a ∧ P a
  | e :: _ => x = .error e

namespace Reads

variable {α β : Type} {P : α → Prop} {Q : β → Prop} {os os' : List Error} {x : Except Error α}

theorem pure {a : α} (h : P a) : Reads [] P (pure a) := ⟨a, rfl, h⟩

/-- What is wrong with a first part comes before what is wrong with the rest. -/
theorem bind {f : α → Except Error β} (h : Reads os P x) (hf : ∀ a, P a → Reads os' Q (f a)) :
    Reads (os ++ os') Q (x >>= f) := by
  cases os with
  | nil =>
    obtain ⟨a, rfl, ha⟩ := h
    exact hf a ha
  | cons e os =>
    rw [Reads] at h
    rw [h]
    rfl

/-- The last part of a reading puts its results together. -/
theorem map {f : α → β} (h : Reads os P x) (hf : ∀ a, P a → Q (f a)) :
    Reads os Q (x >>= fun a => Pure.pure (f a)) := by
  have hbind : Reads (os ++ []) Q (x >>= fun a => Pure.pure (f a)) :=
    h.bind fun a ha => Reads.pure (hf a ha)
  rwa [List.append_nil] at hbind

end Reads

theorem RawAssertion.build_reads (index : Nat) (a : RawAssertion) :
    Reads (if ∃ c, a.Names c then [] else [.unknownOperator a.operator index]) a.Builds
      (a.build index) := by
  rw [RawAssertion.build]
  cases hc : Comparison.ofText? a.operator with
  | none =>
    have hnames : ¬ ∃ c, a.Names c := by
      rintro ⟨c, hnames⟩
      rw [Comparison.ofText?_eq_some_iff.2 hnames] at hc
      cases hc
    rw [if_neg hnames]
    rfl
  | some c =>
    have hnames := Comparison.ofText?_eq_some_iff.1 hc
    rw [if_pos ⟨c, hnames⟩]
    exact .pure ⟨rfl, hnames, rfl⟩

theorem buildAssertions_reads (index : Nat) (as : List RawAssertion) :
    Reads (RawStep.assertionOffences index as) (List.Forall₂ RawAssertion.Builds as)
      (buildAssertions index as) := by
  induction as with
  | nil => exact .pure .nil
  | cons a as ih =>
    rw [buildAssertions, RawStep.assertionOffences, List.flatMap_cons]
    exact (a.build_reads index).bind fun b hb => ih.map fun bs hbs => .cons hb hbs

namespace RawStep

mutual

/-- Reading a step fails with the first thing that is wrong with it. -/
theorem build_reads (index : Nat) (s : RawStep) :
    Reads (s.offences index) s.Builds (s.build index) := by
  obtain ⟨a, bs⟩ := s
  rw [offences, build]
  exact (buildAssertions_reads index a.assertions).bind fun as has =>
    (buildBranches_reads index bs).map fun cs hcs => .mk ⟨rfl, rfl, has, rfl⟩ hcs

theorem buildBranches_reads (index : Nat) (bs : List (String × List RawStep)) :
    Reads (branchOffences index bs) (BranchesBuild bs) (buildBranches index bs) := by
  match bs with
  | [] => exact .pure .nil
  | (key, ss) :: bs =>
    rw [branchOffences, buildBranches]
    cases hkey : statusKey? key with
    | none =>
      have hnone : ¬ ∃ code, StatusKey key code := by
        rintro ⟨code, h⟩
        rw [statusKey?_eq_some_iff.2 h] at hkey
        cases hkey
      rw [if_neg hnone]
      rfl
    | some code =>
      have hkey := statusKey?_eq_some_iff.1 hkey
      rw [if_pos ⟨code, hkey⟩, List.nil_append]
      exact (buildList_reads 1 ss).bind fun ts hts =>
        (buildBranches_reads index bs).map fun cs hcs => .cons hkey hts hcs

theorem buildList_reads (index : Nat) (ss : List RawStep) :
    Reads (listOffences index ss) (ListBuilds ss) (buildList index ss) := by
  match ss with
  | [] => exact .pure .nil
  | s :: ss =>
    rw [listOffences, buildList]
    exact (build_reads index s).bind fun t ht =>
      (buildList_reads (index + 1) ss).map fun ts hts => .cons ht hts

end

end RawStep

theorem Chain.build_reads (name : String) (steps : List RawStep) :
    Reads (RawStep.listOffences 1 steps)
      (fun c => c.name = name ∧ RawStep.ListBuilds steps c.steps) (Chain.build name steps) :=
  (RawStep.buildList_reads 1 steps).map fun _ h => ⟨rfl, h⟩

/-- Reading a chain is exact.  It succeeds if and only if every operator and
every status key can be read, on every level of the tree; then the chain has the
shape of what is written, and as many steps.  Otherwise its error is the first
thing that is wrong, in the order of the steps: the assertions of a step, then
each of its keys and the steps below it.  Such an error gives the text as it is
written and the place of its step among its siblings, counted from one.  A run
of the chain by its name ends with the same error before anything is sent. -/
theorem Chain.build_exact (name : String) (steps : List RawStep) :
    ((∃ c, Chain.build name steps = .ok c) ↔ ∀ p ∈ RawStep.listPlaces 1 steps, p.2.Readable) ∧
    (∀ c, Chain.build name steps = .ok c → c.name = name ∧ RawStep.ListBuilds steps c.steps ∧
      c.stepCount = (RawStep.listPlaces 1 steps).length) ∧
    (∀ e, Chain.build name steps = .error e ↔ (RawStep.listOffences 1 steps).head? = some e) ∧
    (∀ e, e ∈ RawStep.listOffences 1 steps ↔
      ∃ p ∈ RawStep.listPlaces 1 steps, RawStep.Faulty p e) ∧
    ∀ (r : Runner) (s : RunState), r.config.chainSteps name = .ok steps →
      (∃ p ∈ RawStep.listPlaces 1 steps, ¬ p.2.Readable) →
      ∃ e, (RawStep.listOffences 1 steps).head? = some e ∧ r.runNamed name s = (.error e, s) := by
  have hreads := Chain.build_reads name steps
  have hiff : RawStep.listOffences 1 steps = [] ↔
      ∀ p ∈ RawStep.listPlaces 1 steps, p.2.Readable := RawStep.listOffences_eq_nil_iff
  cases hos : RawStep.listOffences 1 steps with
  | nil =>
    rw [hos] at hreads
    obtain ⟨c, hc, hname, hbuilds⟩ := hreads
    have hall := hiff.1 hos
    refine ⟨⟨fun _ => hall, fun _ => ⟨c, hc⟩⟩, fun c' hc' => ?_, fun e => ?_, fun e => ?_, ?_⟩
    · cases hc.symm.trans hc'
      exact ⟨hname, hbuilds, hbuilds.count_eq 1⟩
    · rw [hc]
      simp
    · rw [← hos, RawStep.mem_listOffences]
    · rintro r s - ⟨p, hp, hbad⟩
      exact absurd (hall p hp) hbad
  | cons e os =>
    rw [hos] at hreads
    have hreads : Chain.build name steps = .error e := hreads
    have hne : ¬ ∀ p ∈ RawStep.listPlaces 1 steps, p.2.Readable := by
      rw [← hiff, hos]
      simp
    refine ⟨⟨?_, fun h => absurd h hne⟩, fun c hc => ?_, fun e' => ?_, fun e' => ?_, ?_⟩
    · rintro ⟨c, hc⟩
      cases hreads.symm.trans hc
    · cases hreads.symm.trans hc
    · rw [hreads]
      simp
    · rw [← hos, RawStep.mem_listOffences]
    · intro r s hsteps _
      refine ⟨e, rfl, ?_⟩
      have hload : r.config.loadChain name = .error e := by
        rw [Config.loadChain, hsteps]
        exact hreads
      rw [Runner.runNamed, hload]

/-- Steps with a status key that is none, and below it an operator that is none. -/
def faultyFlow : List RawStep :=
  [.mk ⟨"login", {}, [⟨"1", " >= ", "0"⟩], {}⟩
    [(" 4x", [.mk ⟨"retry", {}, [⟨"1", "=~", "1"⟩], {}⟩ []])]]

/-- A runner whose config has these steps as a chain. -/
def faultyRunner : Runner :=
  ⟨{ Config.empty with chains := Dict.empty.insert "flow" faultyFlow }, fun _ => none,
    fun _ _ => ⟨none, false, []⟩⟩

/-- A key comes before the steps below it, and its blanks are part of what is
reported. -/
theorem build_exact_flow :
    (¬ ∃ c, Chain.build "flow" faultyFlow = .ok c) ∧
      faultyRunner.runNamed "flow" (.start {} ⟨id, id, 0⟩ false) =
        (.error (.invalidStatus " 4x" 1), .start {} ⟨id, id, 0⟩ false) := by
  obtain ⟨hread, -, hfirst, -, hrun⟩ := Chain.build_exact "flow" faultyFlow
  have herror : Chain.build "flow" faultyFlow = .error (.invalidStatus " 4x" 1) := rfl
  have hfails : ¬ ∃ c, Chain.build "flow" faultyFlow = .ok c := by
    rintro ⟨c, hc⟩
    cases herror.symm.trans hc
  have hbad : ∃ p ∈ RawStep.listPlaces 1 faultyFlow, ¬ p.2.Readable := by
    rw [hread] at hfails
    simpa using hfails
  obtain ⟨e, he, hresult⟩ := hrun faultyRunner (.start {} ⟨id, id, 0⟩ false) rfl hbad
  rw [(hfirst _).1 herror] at he
  cases he
  exact ⟨hfails, hresult⟩

end HttpChain
