import HttpChain.Proofs.Config.RoundTrip
import HttpChain.Proofs.Config.WriteBack

/-!
# HttpChain.Proofs.Config.Store

Saving a config where it comes from.  A config that was loaded from a file can be saved
there, and is then loaded in the same way (`load_of_writeAt`): the file is found where
it was found before.  So can be what a response makes of it (`Config.exists_keep`).
-/

namespace HttpChain

namespace ConfigFile

variable {t : FileTree} {path : String} {q : Place} {old : List UInt8}

theorem exists_place?_of_readAt {c : Config} (h : readAt t path = .ok c) :
    ∃ q old, t.place? path = .ok q ∧ t.node? q = some (.file old) := by
  obtain ⟨text, htext, -⟩ := readAt_eq_ok_iff.1 h
  cases hread : t.read path with
  | error f =>
    rw [FileTree.readText, hread] at htext
    cases htext
  | ok old =>
    obtain ⟨q, hplace, hfile⟩ := FileTree.read_eq_ok_iff.1 hread
    exact ⟨q, old, hplace, hfile⟩

/-- The path of the file that a config is loaded from, if there is one. -/
def source? (t : FileTree) (explicit bundle : Option String) : Option String :=
  explicit.orElse fun _ => find t (fileName bundle)

theorem load_fst (t : FileTree) (explicit bundle : Option String) :
    (load t explicit bundle).1 =
      match source? t explicit bundle with
      | some path => (readAt t path).map (⟨·, path⟩)
      | none => .ok ⟨Config.empty, fileName bundle⟩ := by
  cases explicit with
  | some path => rfl
  | none =>
    simp only [load, source?, Option.orElse]
    cases find t (fileName bundle) <;> rfl

theorem source?_set_file (hfile : t.node? q = some (.file old)) (new : List UInt8)
    (explicit bundle : Option String) :
    source? (t.set q (.file new)) explicit bundle = source? t explicit bundle := by
  have hisFile : (t.set q (.file new)).isFile = t.isFile := funext (FileTree.isFile_set_file hfile)
  rw [source?, source?, find, find, findUpwards, findUpwards, findAtHome, findAtHome, hisFile]
  rfl

/-! ## loading again -/

section Load

variable {explicit bundle : Option String} {f : ConfigFile}

theorem readAt_of_load {path : String} (hsource : source? t explicit bundle = some path)
    (hload : (load t explicit bundle).1 = .ok f) :
    f.path = path ∧ readAt t path = .ok f.config := by
  rw [load_fst, hsource] at hload
  dsimp only at hload
  cases hread : readAt t path with
  | error e =>
    rw [hread] at hload
    cases hload
  | ok c =>
    rw [hread] at hload
    cases hload
    exact ⟨rfl, rfl⟩

/-- What is loaded and is not the config without anything in it comes from a file. -/
theorem readAt_of_load_nonempty (hload : (load t explicit bundle).1 = .ok f)
    (hne : f.config ≠ Config.empty) : readAt t f.path = .ok f.config := by
  cases hsource : source? t explicit bundle with
  | some path =>
    obtain ⟨rfl, hread⟩ := readAt_of_load hsource hload
    exact hread
  | none =>
    rw [load_fst, hsource] at hload
    cases hload
    exact absurd rfl hne

/-- A config that is saved in the file it comes from is loaded again in the same way. -/
theorem load_of_writeAt {path : String} (hsource : source? t explicit bundle = some path)
    (hload : (load t explicit bundle).1 = .ok f) {c : Config} (hc : c.Ordered) :
    ∃ files, writeAt t c f.path = .ok files ∧
      (load files explicit bundle).1 = .ok ⟨c, f.path⟩ := by
  obtain ⟨rfl, hread⟩ := readAt_of_load hsource hload
  obtain ⟨q, old, hplace, hfile⟩ := exists_place?_of_readAt hread
  have hwrite := writeAt_of_place? hplace (FileTree.node?_ne_directory hfile) c
  refine ⟨_, hwrite, ?_⟩
  rw [load_fst, source?_set_file hfile, hsource]
  dsimp only
  rw [readAt_of_writeAt hc hwrite]
  rfl

end Load

end ConfigFile

/-! ## writing back -/

/-- The files once the config has been saved, if anything has been written back to it. -/
def WriteBack.keep (w : WriteBack) (path : String) (t : FileTree) : Except Error FileTree :=
  if w.updated then ConfigFile.writeAt t w.config path else .ok t

/-- Where a config is read, the one with a response written back can be kept. -/
theorem Config.exists_keep {t : FileTree} {c : Config} {path : String}
    (h : ConfigFile.readAt t path = .ok c) (template : RequestTemplate) (response : Response) :
    ∃ files, (c.writeBack template response).keep path t = .ok files ∧
      ConfigFile.readAt files path = .ok (c.writeBack template response).config := by
  rw [WriteBack.keep]
  by_cases hupdated : (c.writeBack template response).updated = true
  · have hordered : (c.writeBack template response).config.Ordered := by
      rw [Config.Ordered, Config.chains_writeBack]
      exact Config.ordered_of_readAt h
    obtain ⟨q, old, hplace, hfile⟩ := ConfigFile.exists_place?_of_readAt h
    have hwrite := ConfigFile.writeAt_of_place? hplace (FileTree.node?_ne_directory hfile)
      (c.writeBack template response).config
    exact ⟨_, (if_pos hupdated).trans hwrite, ConfigFile.readAt_of_writeAt hordered hwrite⟩
  · have hconfig := Config.config_writeBack_of_not_updated (by simpa using hupdated)
    exact ⟨t, if_neg hupdated, h.trans (congrArg Except.ok hconfig.symm)⟩

end HttpChain
