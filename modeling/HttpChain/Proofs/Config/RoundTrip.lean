import HttpChain.Proofs.Config.Omission
import HttpChain.Proofs.Config.Reachable
import HttpChain.Proofs.Paths
import HttpChain.Proofs.Toml.RoundTrip

/-!
# HttpChain.Proofs.Config.RoundTrip

A config that is saved is loaded as it was.  Its document is neat, so the text
of the document reads as the document up to the order of entries, and in any
order the document is that of the config.  Saving needs no more than a path
that leads to a place without a directory (`ConfigFile.writeAt_of_place?`).
-/

namespace HttpChain

open Toml

/-! ## neat documents -/

namespace Toml

theorem neat_string (s : String) : Neat (.string s) := .plain (.scalar (.string s))

theorem neat_bool (b : Bool) : Neat (.bool b) := .plain (.scalar (.bool b))

/-- An array of strings is neat. -/
theorem neat_strings (ss : List String) : Neat (.array (ss.map .string)) := by
  refine .plain (.array fun v hv => ?_)
  obtain ⟨s, -, rfl⟩ := List.mem_map.1 hv
  exact .string s

/-- A table made of a map is neat, as no key of a map stands in it twice. -/
theorem neat_dict {α : Type} {f : α → Toml} {d : Dict α} (h : ∀ e ∈ d.toList, Neat (f e.2)) :
    Neat (.table (d.toList.map fun e => (e.1, f e.2))) := by
  refine .table ?_ fun e he => ?_
  · rw [List.map_map]
    exact d.ascending.nodup_keys
  · obtain ⟨e, hmem, rfl⟩ := List.mem_map.1 he
    exact h e hmem

theorem neat_ofTexts (d : Dict String) : Neat (ofTexts d) := neat_dict fun e _ => neat_string e.2

/-- An optional entry is neat if its value is, when there is one. -/
theorem neat_optional {α : Type} (key : String) (a : Option α) {f : α → Toml}
    (h : ∀ x, Neat (f x)) : ∀ e ∈ optional key (a.map f), Neat e.2 := by
  cases a <;> simp [optional, h]

/-- An entry that is left out under a condition is neat otherwise. -/
theorem neat_unless (key : String) (c : Prop) [Decidable c] {v : Toml} (h : Neat v) :
    ∀ e ∈ (if c then [] else [(key, v)] : List (String × Toml)), Neat e.2 := by
  split <;> simp [h]

theorem neat_texts (key : String) (d : Dict String) : ∀ e ∈ texts key d, Neat e.2 :=
  neat_unless key d.isEmpty (neat_ofTexts d)

end Toml

/-- A request is written neatly. -/
theorem RequestTemplate.neat (t : RequestTemplate) : Neat t.toToml := by
  refine .table t.nodup_entries ?_
  simp only [List.forall_mem_append]
  exact ⟨⟨⟨⟨⟨by simp [neat_string], neat_unless _ _ (neat_string _)⟩,
    neat_unless _ _ (neat_strings _)⟩, by simp [neat_bool]⟩, neat_optional _ _ neat_string⟩,
    neat_texts _ _⟩

/-- An authentication is written neatly. -/
theorem Auth.neat (a : Auth) : Neat (.table a.entries) := by
  refine .table a.nodup_entries ?_
  simp only [entries, List.forall_mem_append]
  exact ⟨⟨neat_optional _ _ neat_string, neat_optional _ _ neat_string⟩,
    neat_optional _ _ neat_string⟩

/-- An assertion is written neatly. -/
theorem RawAssertion.neat (a : RawAssertion) : Neat a.toToml :=
  .table (show ["left", "op", "right"].Nodup by decide) (by simp [neat_string])

/-- What a step does itself is written neatly. -/
theorem RawAction.neat_entries (a : RawAction) : ∀ e ∈ a.entries, Neat e.2 := by
  have hassertions : Neat (.array (a.assertions.map RawAssertion.toToml)) := by
    refine .tables ?_ ?_ <;> intro v hv <;> obtain ⟨b, -, rfl⟩ := List.mem_map.1 hv
    · rfl
    · exact b.neat
  simp only [entries, List.forall_mem_append]
  exact ⟨⟨⟨by simp [neat_string], neat_texts _ _⟩, neat_unless _ _ hassertions⟩, neat_texts _ _⟩

namespace RawStep

/-- The keys of the branches are those under which they are written. -/
theorem map_fst_branchEntries (branches : List (String × List RawStep)) :
    (branchEntries branches).map Prod.fst = branches.map Prod.fst := by
  induction branches with
  | nil => rfl
  | cons b branches ih => rw [branchEntries, List.map_cons, ih, List.map_cons]

/-- Every step is written as a table, so that steps get sections of their own. -/
theorem isTable_of_mem_listToToml {steps : List RawStep} :
    ∀ v ∈ listToToml steps, isTable v = true := by
  induction steps with
  | nil => simp [listToToml]
  | cons step steps ih =>
    obtain ⟨a, branches⟩ := step
    rw [listToToml, toToml_eq]
    exact List.forall_mem_cons.2 ⟨rfl, ih⟩

mutual

/-- A step is written neatly, with all steps below it. -/
theorem neat (s : RawStep) (hs : s.Ordered) : Neat s.toToml := by
  obtain ⟨a, branches⟩ := s
  have hkeys : ((branchEntries branches).map Prod.fst).Nodup := by
    rw [map_fst_branchEntries]
    exact hs.1.nodup_keys
  have hbranches : Neat (.table (branchEntries branches)) :=
    .table hkeys (neat_branchEntries branches hs.2)
  rw [toToml_eq]
  exact .table (nodup_entries (mk a branches))
    (List.forall_mem_append.2 ⟨a.neat_entries, neat_unless _ _ hbranches⟩)

/-- Branches are written neatly, each with its steps. -/
theorem neat_branchEntries (branches : List (String × List RawStep))
    (h : BranchesOrdered branches) : ∀ e ∈ branchEntries branches, Neat e.2 := by
  match branches with
  | [] => simp [branchEntries]
  | (status, steps) :: branches =>
    rw [branchEntries]
    exact List.forall_mem_cons.2 ⟨.tables isTable_of_mem_listToToml (neat_of_mem steps h.1),
      neat_branchEntries branches h.2⟩

/-- Steps are written neatly, one by one. -/
theorem neat_of_mem (steps : List RawStep) (h : ListOrdered steps) :
    ∀ v ∈ listToToml steps, Neat v := by
  match steps with
  | [] => simp [listToToml]
  | step :: steps =>
    rw [listToToml]
    exact List.forall_mem_cons.2 ⟨neat step h.1, neat_of_mem steps h.2⟩

end

/-- The steps of a chain are written neatly. -/
theorem neat_listToToml {steps : List RawStep} (h : ListOrdered steps) :
    Neat (.array (listToToml steps)) :=
  .tables isTable_of_mem_listToToml (neat_of_mem steps h)

end RawStep

namespace Config

/-- A timeout is within the bounds of what is read back. -/
theorem neat_seconds (n : UInt64) : Neat (.integer n.toNat) :=
  .plain (.scalar (.natural (Nat.lt_trans n.toNat_lt (by decide))))

/-- The document of a config is neat if the keys of its branches ascend. -/
theorem neat_document {c : Config} (hc : c.Ordered) : Neat (.table c.document) := by
  refine .table c.nodup_document ?_
  have hrequests : Neat (.table (c.requests.toList.map fun e => (e.1, e.2.toToml))) :=
    neat_dict fun e _ => e.2.neat
  have hchains : Neat (.table (c.chains.toList.map fun e =>
      (e.1, Toml.array (RawStep.listToToml e.2)))) :=
    neat_dict (f := fun steps => .array (RawStep.listToToml steps)) fun e he =>
      RawStep.neat_listToToml (hc e he)
  simp only [document, List.forall_mem_append]
  exact ⟨⟨⟨⟨⟨neat_optional _ _ neat_string, neat_optional _ _ neat_seconds⟩, neat_texts _ _⟩,
    neat_unless _ _ c.auth.neat⟩, neat_unless _ _ hrequests⟩, neat_unless _ _ hchains⟩

/-! ## texts and files -/

/-- The text of a config is read as the config. -/
theorem read?_write {c : Config} (hc : c.Ordered) : read? c.write = some c := by
  have horder : Reordered (.table c.document)
      (.table (own c.document ++ arrangeChildren c.document)) := by
    have h := reordered_arrange (.table c.document)
    rwa [arrange] at h
  rw [read?, write, Toml.read?_write (neat_document hc), Option.bind_some]
  exact ofDocument?_of_reordered hc horder

end Config

namespace ConfigFile

/-- To save a config is to write its text, once the directories above have been made. -/
theorem exists_write_of_writeAt {t t' : FileTree} {c : Config} {path : String}
    (h : writeAt t c path = .ok t') :
    ∃ u : FileTree, (u = t ∨ ∃ above, t.makeDirectories above = .ok u) ∧
      u.write path (Text.bytes c.write) = .ok t' := by
  rw [writeAt] at h
  split at h
  · next hwrite =>
    cases h
    split at hwrite
    · next above _ =>
      cases hmade : t.makeDirectories above with
      | error f =>
        rw [hmade] at hwrite
        cases hwrite
      | ok u =>
        rw [hmade] at hwrite
        exact ⟨u, .inr ⟨above, hmade⟩, hwrite⟩
    · exact ⟨t, .inl rfl, hwrite⟩
  · cases h

/-- A config can be saved where its path leads and there is no directory, and nothing else
changes. -/
theorem writeAt_of_place? {t : FileTree} {path : String} {q : Place} (h : t.place? path = .ok q)
    (hfree : t.node? q ≠ some .directory) (c : Config) :
    writeAt t c path = .ok (t.set q (.file (Text.bytes c.write))) := by
  have hwrite := FileTree.write_of_place? h hfree (Text.bytes c.write)
  rw [writeAt]
  cases hparent : (Path.parent? path).filter (· ≠ "") with
  | none =>
    simp only [pure_bind, hwrite]
    rfl
  | some parent =>
    obtain ⟨hparent, hne⟩ := Option.filter_eq_some_iff.1 hparent
    have hmade := FileTree.makeDirectories_of_isDirectory
      (FileTree.isDirectory_parent h hfree hparent (by simpa using hne))
    simp only [hmade, bind, Except.bind, hwrite]
    rfl

/-- A config that is saved is loaded from where it is saved. -/
theorem readAt_of_writeAt {t t' : FileTree} {c : Config} (hc : c.Ordered) {path : String}
    (h : writeAt t c path = .ok t') : readAt t' path = .ok c := by
  obtain ⟨u, -, hwrite⟩ := exists_write_of_writeAt h
  exact readAt_eq_ok_iff.2 ⟨c.write, FileTree.readText_write hwrite, Config.read?_write hc⟩

end ConfigFile

namespace Config

/-- A config that a user can come by has its branches in order.  A config that has can be
saved at every path that leads to a place without a directory, and is loaded as it was
saved, from its file, from its text and from its document in any order.  The document leaves
out exactly what reading puts back, but for the method and the flags of requests and the
requests of steps. -/
theorem roundTrip :
    (∀ c : Config, c.Reachable → c.Ordered) ∧
    (∀ c : Config, c.Ordered →
      (∀ (t : FileTree) path q, t.place? path = .ok q → t.node? q ≠ some .directory →
        ConfigFile.writeAt t c path = .ok (t.set q (.file (Text.bytes c.write)))) ∧
      (∀ t path t', ConfigFile.writeAt t c path = .ok t' → ConfigFile.readAt t' path = .ok c) ∧
      read? c.write = some c ∧
      (∀ es, Reordered (.table c.document) (.table es) → ofDocument? es = some c) ∧
      LeavesOut ofTable? [] (.table c.document) c) ∧
    (∀ a : Auth, LeavesOut Auth.ofToml? [] (.table a.entries) a) ∧
    (∀ t : RequestTemplate,
      LeavesOut RequestTemplate.ofToml? ["method", "no_auth", "no_headers"] t.toToml t) ∧
    ∀ s : RawStep, s.Ordered → LeavesOut RawStep.ofToml? ["request"] s.toToml s := by
  refine ⟨fun c hc => hc.ordered, fun c hc => ?_, Auth.leavesOut, RequestTemplate.leavesOut,
    fun s hs => RawStep.leavesOut hs⟩
  exact ⟨fun t path q h hfree => ConfigFile.writeAt_of_place? h hfree c,
    fun t path t' h => ConfigFile.readAt_of_writeAt hc h, read?_write hc,
    fun es h => ofDocument?_of_reordered hc h, leavesOut hc⟩

/-- Logging in again, and below it what to do where that fails. -/
def retryStep : RawStep :=
  .mk ⟨"login", {}, [], {}⟩ [("401", [.mk ⟨"", {}, [], {}⟩ [("500", [])]]), ("a.b", [])]

/-- A config with branches below branches, and with texts that need quotes. -/
def nested : Config := { empty with
  timeout := some 30
  headers := Dict.empty.insert "" "one\ntwo"
  chains := Dict.empty.insert "main chain" [retryStep] }

/-- A tree with no files in it. -/
def bareTree : FileTree := ⟨[], [], none⟩

theorem reachable_empty : empty.Reachable := by
  have hload : (ConfigFile.load bareTree none none).1 = .ok ⟨empty, "chainpost.toml"⟩ := rfl
  exact .load hload

theorem ordered_retryStep : retryStep.Ordered := by
  have hbelow : RawStep.ListOrdered [.mk ⟨"", {}, [], {}⟩ [("500", [])]] :=
    ⟨⟨List.pairwise_singleton _ _, trivial, trivial⟩, trivial⟩
  have hkeys : "401" < "a.b" := by decide
  exact ⟨List.pairwise_pair.2 hkeys, hbelow, trivial, trivial⟩

theorem ordered_nested : nested.Ordered := by
  intro e he
  rw [List.mem_singleton.1 he]
  exact ⟨ordered_retryStep, trivial⟩

/-- An empty config in which a request is saved has its branches in order, and
the config with branches can be saved and is loaded as it was saved. -/
theorem roundTrip_nested :
    (empty.saveRequest "list" (.bare "GET" "http://localhost/")).Ordered ∧
    ConfigFile.writeAt bareTree nested "nested.toml" =
      .ok (bareTree.set ["nested.toml"] (.file (Text.bytes nested.write))) ∧
    ConfigFile.readAt (bareTree.set ["nested.toml"] (.file (Text.bytes nested.write)))
      "nested.toml" = .ok nested ∧
    ofDocument? nested.document.reverse = some nested ∧
    LeavesOut RawStep.ofToml? ["request"] retryStep.toToml retryStep := by
  obtain ⟨hreachable, hordered, -, -, hsteps⟩ := roundTrip
  obtain ⟨hsave, hfile, -, hdocument, -⟩ := hordered nested ordered_nested
  have hsaved := hsave bareTree "nested.toml" ["nested.toml"] rfl (by decide)
  refine ⟨hreachable _ (reachable_empty.saveRequest _ _), hsaved, hfile _ _ _ hsaved, ?_,
    hsteps _ ordered_retryStep⟩
  exact hdocument _ (.table rfl (List.forall₂_same.2 fun v _ => .refl v) (List.reverse_perm _))

end Config

end HttpChain
