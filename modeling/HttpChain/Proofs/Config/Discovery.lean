import HttpChain.Proofs.Config.Store
import HttpChain.Proofs.Places

/-!
# HttpChain.Proofs.Config.Discovery

Which file a config is loaded from.  It is the file of its name in the nearest of the
working directory and those above it that has one, or else in the user's own directory
(`chosen_iff`).  A config that was loaded, from a file or from none, and is saved with
whatever changes is loaded with them afterwards (`load_save_load`): the file is the one it
came from, or one where the search begins, so nothing can be found before it.
-/

namespace HttpChain

namespace ConfigFile

open HttpChain.Path

variable {t t' : FileTree} {name path : String} {d : Place}

/-! ## looking for a file -/

/-- A directory has a file of a name; if the name has no slashes, the file stands right below
the directory (`FileTree.WellFormed.isFile_join_ofPlace_iff`). -/
def Has (t : FileTree) (name : String) (d : Place) : Prop :=
  t.isFile (join (ofPlace d) name) = true

/-- The nearest of the working directory and those above it that has a file of a name. -/
structure Nearest (t : FileTree) (name : String) (d : Place) : Prop where
  above : d <+: t.workingDirectory
  has : Has t name d
  nearest : ∀ e, e <+: t.workingDirectory → Has t name e → e <+: d

/-- What is to be found of a name: the nearest file, or else that in the user's own
directory, or else nothing. -/
inductive Chosen (t : FileTree) (name : String) : Option String → Prop where
  | upwards {d : Place} (h : Nearest t name d) : Chosen t name (some (join (ofPlace d) name))
  | atHome {path : String} (h : ∀ d, d <+: t.workingDirectory → ¬Has t name d)
    (hpath : pathAtHome? t name = some path) (hfile : t.isFile path = true) :
    Chosen t name (some path)
  | nowhere (h : ∀ d, d <+: t.workingDirectory → ¬Has t name d)
    (hpath : ∀ path, pathAtHome? t name = some path → t.isFile path = false) :
    Chosen t name none

theorem Nearest.unique {e : Place} (h : Nearest t name d) (h' : Nearest t name e) : d = e :=
  antisymm (h'.nearest d h.above h.has) (h.nearest e h'.above h'.has)

theorem Chosen.unique {a b : Option String} (h : Chosen t name a) (h' : Chosen t name b) :
    a = b := by
  cases h with
  | upwards h =>
    cases h' with
    | upwards h' => rw [h.unique h']
    | atHome hnot | nowhere hnot => exact absurd h.has (hnot _ h.above)
  | atHome hnot hpath hfile =>
    cases h' with
    | upwards h' => exact absurd h'.has (hnot _ h'.above)
    | atHome _ hpath' => rw [← hpath, hpath']
    | nowhere _ hnone => exact absurd hfile (by simp [hnone _ hpath])
  | nowhere hnot hnone =>
    cases h' with
    | upwards h' => exact absurd h'.has (hnot _ h'.above)
    | atHome _ hpath hfile => exact absurd hfile (by simp [hnone _ hpath])
    | nowhere => rfl

/-- The search through the beginnings of a list, from the longest. -/
theorem find?_inits_reverse {α : Type} (p : List α → Bool) (l : List α) :
    (∃ d, l.inits.reverse.find? p = some d ∧ d <+: l ∧ p d = true ∧
      ∀ e, e <+: l → p e = true → e <+: d) ∨
    l.inits.reverse.find? p = none ∧ ∀ e, e <+: l → p e = false := by
  induction l using List.reverseRecOn with
  | nil => cases h : p [] <;> simp [h]
  | append_singleton l a ih =>
    have hinits : (l ++ [a]).inits.reverse = (l ++ [a]) :: l.inits.reverse := by
      simp [List.inits_append]
    rw [hinits]
    cases h : p (l ++ [a]) with
    | true =>
      rw [List.find?_cons_of_pos h]
      exact .inl ⟨_, rfl, List.prefix_rfl, h, fun e he _ => he⟩
    | false =>
      rw [List.find?_cons_of_neg (by simp [h])]
      simp only [List.prefix_concat_iff]
      grind

theorem findUpwards_eq (ht : t.WellFormed) (name : String) :
    findUpwards t t.workingPath name =
      (t.workingDirectory.inits.reverse.find? fun d => t.isFile (join (ofPlace d) name)).map
        fun d => join (ofPlace d) name := by
  have hnames := (ht.admits_of_directory ht.working).names
  change ((Path.upwards (ofPlace t.workingDirectory)).map fun d => join d name).find? t.isFile = _
  rw [upwards_ofPlace hnames, List.map_map, List.find?_map]
  rfl

theorem chosen_find (ht : t.WellFormed) (name : String) : Chosen t name (find t name) := by
  rw [find, findUpwards_eq ht]
  rcases find?_inits_reverse (fun d => t.isFile (join (ofPlace d) name)) t.workingDirectory with
    ⟨d, hfind, habove, hhas, hnearest⟩ | ⟨hfind, hnot⟩
  · rw [hfind]
    exact .upwards ⟨habove, hhas, hnearest⟩
  · have hnowhere : ∀ d, d <+: t.workingDirectory → ¬Has t name d := fun d hd => by
      simp [Has, hnot d hd]
    rw [hfind]
    change Chosen t name ((pathAtHome? t name).filter t.isFile)
    cases hhome : (pathAtHome? t name).filter t.isFile with
    | some path =>
      obtain ⟨hpath, hfile⟩ := Option.filter_eq_some_iff.1 hhome
      exact .atHome hnowhere hpath hfile
    | none => exact .nowhere hnowhere fun path hpath => by simpa [hpath] using hhome

/-- The search finds what is to be found. -/
theorem chosen_iff (ht : t.WellFormed) {chosen : Option String} :
    Chosen t name chosen ↔ chosen = find t name := by
  refine ⟨fun h => h.unique (chosen_find ht name), ?_⟩
  rintro rfl
  exact chosen_find ht name

/-- What is in the working directory is found there. -/
theorem find_of_isFile (h : t.isFile (join t.workingPath name) = true) :
    find t name = some (join t.workingPath name) := by
  obtain ⟨rest, hrest⟩ := exists_upwards t.workingPath
  rw [find, findUpwards, pathsUpwards, hrest, List.map_cons, List.find?_cons_of_pos h]
  rfl

theorem load_of_find_some {bundle : Option String} (h : find t (fileName bundle) = some path) :
    (load t none bundle).1 = (readAt t path).map (⟨·, path⟩) := by
  rw [load_fst, source?, Option.orElse_none, h]

theorem load_of_find_none {bundle : Option String} (h : find t (fileName bundle) = none) :
    (load t none bundle).1 = .ok ⟨Config.empty, fileName bundle⟩ := by
  rw [load_fst, source?, Option.orElse_none, h]

theorem fileName_ne_empty (bundle : Option String) : fileName bundle ≠ "" := by
  cases bundle with
  | none => decide
  | some bundle =>
    rw [fileName]
    split <;> simp

/-! ## saving -/

theorem written_writeAt {c : Config} (h : writeAt t c path = .ok t') : FileTree.Written t t' := by
  obtain ⟨u, hmade, hwrite⟩ := exists_write_of_writeAt h
  have hu : FileTree.Written t u := by
    rcases hmade with rfl | ⟨above, hmade⟩
    · exact .refl _
    · exact FileTree.written_makeAll hmade
  exact hu.trans (FileTree.written_write hwrite)

/-- Reading depends on where a path leads only. -/
theorem readAt_of_place?_eq {c : Config} {other : String} (hplace : t.place? other = t.place? path)
    (h : readAt t path = .ok c) : readAt t other = .ok c := by
  have htext : t.readText other = t.readText path := by
    rw [FileTree.readText, FileTree.readText, FileTree.read, FileTree.read, hplace]
  rw [readAt_eq_ok_iff] at h ⊢
  rw [htext]
  exact h

/-- A file that was found and is written is found again. -/
theorem find_of_writeAt {bundle : Option String} {c old : Config}
    (hfind : find t (fileName bundle) = some path) (hread : readAt t path = .ok old)
    (hwrite : writeAt t c path = .ok t') : find t' (fileName bundle) = some path := by
  obtain ⟨q, content, hplace, hfile⟩ := exists_place?_of_readAt hread
  have hset := writeAt_of_place? hplace (FileTree.node?_ne_directory hfile) c
  rw [hwrite] at hset
  rw [Except.ok.inj hset]
  exact (source?_set_file hfile _ none bundle).trans hfind

/-- Where no file was found, one that is saved is found in the working directory. -/
theorem find_of_writeAt_fileName {bundle : Option String} {c : Config} (ht : t'.WellFormed)
    (hc : c.Ordered) (hwrite : writeAt t c (fileName bundle) = .ok t') :
    find t' (fileName bundle) = some (join t'.workingPath (fileName bundle)) := by
  obtain ⟨q, content, hplace, hfile⟩ := exists_place?_of_readAt (readAt_of_writeAt hc hwrite)
  rw [← ht.place?_join_workingPath (fileName_ne_empty bundle)] at hplace
  exact find_of_isFile (FileTree.isFile_iff.2 ⟨q, content, hplace, hfile⟩)

/-- A config without a path of its own is loaded from the nearest file of its name at or
above the working directory, or else from the one in the user's own directory, or else is
empty; a directory has a file of a plain name exactly if the file stands right below it.
Once the config has been saved, whatever it has become, the program is where it was, the
file that is found is the one that was found before, or else the one that was saved, and is
loaded as it was saved.  The way up from any path ends. -/
theorem load_save_load (ht : t.WellFormed) (bundle : Option String) :
    (∀ chosen, Chosen t (fileName bundle) chosen ↔ chosen = find t (fileName bundle)) ∧
    (∀ d, t.node? d = some .directory → IsFileName (fileName bundle) →
      (Has t (fileName bundle) d ↔
        ∃ content, t.node? (d ++ [fileName bundle]) = some (.file content))) ∧
    (∀ path, find t (fileName bundle) = some path →
      (load t none bundle).1 = (readAt t path).map (⟨·, path⟩)) ∧
    (find t (fileName bundle) = none →
      (load t none bundle).1 = .ok ⟨Config.empty, fileName bundle⟩) ∧
    (∀ f c t', (load t none bundle).1 = .ok f → c.Ordered →
      save { f with config := c } t = .ok t' →
        FileTree.Written t t' ∧ ∃ path q, find t' (fileName bundle) = some path ∧
          (∀ old ∈ find t (fileName bundle), path = old) ∧
          t'.place? path = .ok q ∧ t'.place? f.path = .ok q ∧
          (load t' none bundle).1 = .ok ⟨c, path⟩) ∧
    ∀ start, (Path.upwards start).head? = some start ∧
      (Path.upwards start).IsChain (fun path above => parent? path = some above) ∧
      ∃ top, (Path.upwards start).getLast? = some top ∧ parent? top = none := by
  refine ⟨fun chosen => chosen_iff ht, fun d hd hname => ht.isFile_join_ofPlace_iff hd hname,
    fun path hfind => load_of_find_some hfind, load_of_find_none,
    fun f c t' hload hc hwrite => ?_, fun start => ?_⟩
  · have hread := readAt_of_writeAt hc hwrite
    have hwritten := written_writeAt hwrite
    have ht' := hwritten.wellFormed ht
    -- the file that is found is the one that was saved, however its path is spelled
    have hfound : ∃ path, find t' (fileName bundle) = some path ∧
        (∀ old ∈ find t (fileName bundle), path = old) ∧ t'.place? path = t'.place? f.path := by
      cases hsource : find t (fileName bundle) with
      | some old =>
        have hsource' : source? t none bundle = some old := hsource
        obtain ⟨rfl, hold⟩ := readAt_of_load hsource' hload
        exact ⟨f.path, find_of_writeAt hsource hold hwrite, by simp, rfl⟩
      | none =>
        rw [load_of_find_none hsource] at hload
        obtain rfl := Except.ok.inj hload
        exact ⟨_, find_of_writeAt_fileName ht' hc hwrite, nofun,
          ht'.place?_join_workingPath (fileName_ne_empty bundle)⟩
    obtain ⟨path, hfind, hold, hplace⟩ := hfound
    obtain ⟨q, -, hq, -⟩ := exists_place?_of_readAt hread
    refine ⟨hwritten, path, q, hfind, hold, hplace.trans hq, hq, ?_⟩
    rw [load_of_find_some hfind, readAt_of_place?_eq hplace hread]
    rfl
  · obtain ⟨rest, hrest⟩ := exists_upwards start
    exact ⟨by rw [hrest]; rfl, isChain_upwards start, parent?_getLast?_upwards start⟩

/-- A directory in another one that has a config. -/
def nestedTree : FileTree where
  nodes := [(["work"], .directory), (["work", "api"], .directory),
    (["work", "chainpost.toml"], .file [])]
  workingDirectory := ["work", "api"]
  home := none

/-- The config above the working directory is changed where it is; that of a bundle without
one goes into the working directory. -/
theorem load_save_load_nested :
    (load (nestedTree.set ["work", "chainpost.toml"] (.file (Text.bytes Config.nested.write)))
      none none).1 = .ok ⟨Config.nested, "/work/chainpost.toml"⟩ ∧
    (load (nestedTree.set ["work", "api", "dev.toml"] (.file (Text.bytes Config.nested.write)))
      none (some "dev")).1 = .ok ⟨Config.nested, "/work/api/dev.toml"⟩ := by
  have ht : nestedTree.WellFormed := by decide +kernel
  constructor
  · obtain ⟨-, -, -, -, hsave, -⟩ := load_save_load ht none
    have hload : (load nestedTree none none).1 = .ok ⟨Config.empty, "/work/chainpost.toml"⟩ := rfl
    have hsaved : save ⟨Config.nested, "/work/chainpost.toml"⟩ nestedTree =
        .ok (nestedTree.set ["work", "chainpost.toml"] (.file (Text.bytes Config.nested.write))) :=
      rfl
    obtain ⟨-, path, -, -, hold, -, -, hreload⟩ := hsave _ _ _ hload Config.ordered_nested hsaved
    rw [hreload, hold "/work/chainpost.toml" rfl]
  · obtain ⟨-, -, -, -, hsave, -⟩ := load_save_load ht (some "dev")
    have hload : (load nestedTree none (some "dev")).1 = .ok ⟨Config.empty, "dev.toml"⟩ := rfl
    have hsaved : save ⟨Config.nested, "dev.toml"⟩ nestedTree =
        .ok (nestedTree.set ["work", "api", "dev.toml"] (.file (Text.bytes Config.nested.write))) :=
      rfl
    obtain ⟨-, path, -, hfind, -, -, -, hreload⟩ :=
      hsave _ _ _ hload Config.ordered_nested hsaved
    obtain rfl : "/work/api/dev.toml" = path := Option.some.inj hfind
    exact hreload

end ConfigFile

end HttpChain
